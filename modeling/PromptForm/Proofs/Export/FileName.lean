import PromptForm.Proofs.Export.Stamp
import PromptForm.Export.Record
import PromptForm.Proofs.Number.Rounding

/-!
# The millisecond of a file name

The name of a file tells the milliseconds since 1970, and so does the stamp in the file. The stamp rounds
them down. The name is made of binary numbers: the seconds are rounded, their thousandfold is rounded
again, and the fraction is dropped. So the two agree from 1970 on as long as the microseconds keep clear of
the next millisecond, and differ before 1970, where a fraction is dropped upwards; and whole milliseconds
agree unless the seconds lie just above a power of two and are rounded down by too much.

## Main definitions

* `Moment.TwiceRounded`: milliseconds that were rounded as seconds and as milliseconds.
* `Moment.Apart`: microseconds that rounding does not carry over a millisecond.
* `Moment.Slips`: whole milliseconds that rounding makes one less.

## Main results

* `Export.Record.fileName_tells`: the millisecond of a file name, and when it is that of the stamp.
* `Export.Record.fileName_slips`: a file name that is one millisecond early.
-/

namespace PromptForm

open Binary64

/-! ### Rounding at a power of two -/

/-- The nearest number to a fraction below a power of two, in units of the last place. -/
theorem Binary64.Rounds.exists_nearest {v p : ℚ} {f g : ℕ} (h : Rounds (v / 2 ^ f) p)
    (hlow : 2 ^ 52 * 2 ^ g ≤ v) (hhigh : v < 2 ^ 53 * 2 ^ g) :
    ∃ n : ℕ, Nearest (v / 2 ^ g) n ∧ p = n * 2 ^ g / 2 ^ f := by
  have hf : (0 : ℚ) < 2 ^ f := by positivity
  have hscale : (2 : ℚ) ^ ((g : ℤ) - f) = 2 ^ g / 2 ^ f := by
    rw [zpow_sub₀ two_ne_zero, zpow_natCast, zpow_natCast]
  have hnormal : Normal (v / 2 ^ f) (g - f) := by
    constructor
    · rw [hscale, ← mul_div_assoc]
      exact div_le_div_of_nonneg_right hlow hf.le
    · rw [hscale, ← mul_div_assoc]
      exact div_lt_div_of_pos_right hhigh hf
  obtain ⟨n, hn, rfl⟩ := h.of_normal hnormal
  rw [hscale] at hn ⊢
  rw [div_div_div_cancel_right₀ hf.ne'] at hn
  exact ⟨n, hn, mul_div_assoc' _ _ _⟩

namespace Moment

/-! ### Milliseconds that are rounded twice -/

/-- The milliseconds of a number of microseconds, rounded as seconds first and then once more. -/
def TwiceRounded (micros : ℕ) (y : ℚ) : Prop :=
  ∃ p, Rounds (micros / 1000000) p ∧ Rounds (p * 1000) y

/-- The microseconds are farther from whole milliseconds than rounding goes. -/
def Apart (micros : ℕ) : Prop :=
  micros ≤ 2 ^ 52 * min (micros % 1000) (1000 - micros % 1000)

/-- The milliseconds are, in seconds, less than 2.4 percent above a power of two, and the nearest binary
number of seconds is below them by more than 0.256 of its last place. -/
def Slips (millis : ℕ) : Prop :=
  125 * 2 ^ (millis.log2 + 1) ≤ 128 * millis ∧
    256 < millis * 2 ^ (61 - millis.log2) % 1000 ∧ millis * 2 ^ (61 - millis.log2) % 1000 < 500

instance : DecidablePred Slips := fun _ => inferInstanceAs (Decidable (_ ∧ _))

instance : DecidablePred Apart := fun _ => inferInstanceAs (Decidable (_ ≤ _))

namespace TwiceRounded

variable {micros : ℕ} {y : ℚ}

theorem nonneg (h : TwiceRounded micros y) : 0 ≤ y := by
  obtain ⟨p, -, hy⟩ := h
  exact hy.nonneg

/-- Two roundings are off by less than one part in `2 ^ 52`. -/
theorem dist_lt (h : TwiceRounded micros y) (hpos : 0 < micros) :
    |y - micros / 1000| * 2 ^ 52 < micros / 1000 := by
  obtain ⟨p, hp, hy⟩ := h
  have hmicros : (0 : ℚ) < micros := by exact_mod_cast hpos
  have hfirst : |p * 1000 - micros / 1000| * (2 ^ 53 + 1) ≤ micros / 1000 := by
    have hscale : p * 1000 - micros / 1000 = (p - micros / 1000000) * 1000 := by ring
    rw [hscale, abs_mul, abs_of_pos (by norm_num : (0 : ℚ) < 1000)]
    linarith [hp.dist_le]
  have hsecond := hy.dist_le
  have hsum : |y - micros / 1000| ≤ |y - p * 1000| + |p * 1000 - micros / 1000| :=
    abs_sub_le _ _ _
  have hproduct : p * 1000 ≤ micros / 1000 + |p * 1000 - micros / 1000| := by
    linarith [le_abs_self (p * 1000 - micros / 1000)]
  have hmillis : (0 : ℚ) < micros / 1000 := by positivity
  linarith

/-- The whole milliseconds and the microseconds beyond them. -/
theorem div_eq (micros : ℕ) : (micros : ℚ) / 1000 = (micros / 1000 : ℕ) + (micros % 1000 : ℕ) / 1000 := by
  have h : (micros : ℚ) = 1000 * (micros / 1000 : ℕ) + (micros % 1000 : ℕ) := by
    exact_mod_cast (Nat.div_add_mod micros 1000).symm
  linarith

/-- Rounding goes to the next whole millisecond at most. -/
theorem floor_near (h : TwiceRounded micros y) (hpos : 0 < micros) (hlt : micros < 2 ^ 58) :
    micros / 1000 ≤ ⌊y⌋₊ + 1 ∧ ⌊y⌋₊ ≤ micros / 1000 + 1 := by
  have hdist := h.dist_lt hpos
  have hmicros : (micros : ℚ) < 2 ^ 58 := by exact_mod_cast hlt
  have hnear : |y - micros / 1000| < 1 := by linarith
  obtain ⟨hlow, hhigh⟩ := abs_lt.1 hnear
  have hrest : ((micros % 1000 : ℕ) : ℚ) < 1000 := by
    exact_mod_cast Nat.mod_lt micros (by norm_num)
  rw [div_eq] at hlow hhigh
  constructor
  · have hfloor := Nat.lt_floor_add_one y
    have hlt : ((micros / 1000 : ℕ) : ℚ) < ⌊y⌋₊ + 1 + 1 := by
      have : (0 : ℚ) ≤ (micros % 1000 : ℕ) := Nat.cast_nonneg _
      linarith
    exact Nat.lt_succ_iff.1 (by exact_mod_cast hlt)
  · have hlt : ⌊y⌋₊ < micros / 1000 + 2 := by
      rw [Nat.floor_lt h.nonneg]
      push_cast
      linarith
    omega

/-- Microseconds that are apart from whole milliseconds stay within theirs. -/
theorem floor_of_apart (h : TwiceRounded micros y) (hpos : 0 < micros) (hapart : Apart micros) :
    ⌊y⌋₊ = micros / 1000 := by
  have hdist := h.dist_lt hpos
  have hbound : ∀ k, min (micros % 1000) (1000 - micros % 1000) ≤ k →
      |y - micros / 1000| < k / 1000 := by
    intro k hk
    have hle : micros ≤ 2 ^ 52 * k := hapart.trans (Nat.mul_le_mul_left _ hk)
    have hle : (micros : ℚ) ≤ 2 ^ 52 * k := by exact_mod_cast hle
    linarith
  have hlow := (abs_lt.1 (hbound _ (min_le_left _ _))).1
  have hhigh := (abs_lt.1 (hbound _ (min_le_right _ _))).2
  have hrest : micros % 1000 ≤ 1000 := (Nat.mod_lt micros (by norm_num)).le
  rw [div_eq micros] at hlow hhigh
  rw [Nat.cast_sub hrest] at hhigh
  rw [Nat.floor_eq_iff h.nonneg]
  constructor
  · linarith
  · push_cast at hhigh
    linarith

end TwiceRounded

/-! ### Whole milliseconds -/

section Whole

variable {millis : ℕ} {y : ℚ}

/-- The nearest binary number of seconds, in units of its last place. -/
theorem exists_seconds {p : ℚ} {f : ℕ} (h : Rounds ((millis * 1000 : ℕ) / 1000000) p)
    (hlow : 1000 * 2 ^ 52 ≤ millis * 2 ^ f) (hhigh : millis * 2 ^ f < 1000 * 2 ^ 53) :
    ∃ n : ℕ, p * 1000 = (1000 * n : ℕ) / 2 ^ f ∧
      millis * 2 ^ f ≤ 1000 * n + 500 ∧ 1000 * n ≤ millis * 2 ^ f + 500 := by
  have hf : (0 : ℚ) < 2 ^ f := by positivity
  have hseconds : ((millis * 1000 : ℕ) : ℚ) / 1000000 = (millis * 2 ^ f : ℕ) / 1000 / 2 ^ f := by
    push_cast
    field_simp
    norm_num
  have hlow' : (1000 : ℚ) * 2 ^ 52 ≤ (millis * 2 ^ f : ℕ) := by exact_mod_cast hlow
  have hhigh' : ((millis * 2 ^ f : ℕ) : ℚ) < 1000 * 2 ^ 53 := by exact_mod_cast hhigh
  rw [hseconds] at h
  obtain ⟨n, hn, rfl⟩ := h.exists_nearest (g := 0) (by linarith) (by linarith)
  obtain ⟨hge, hle⟩ := hn.bounds
  rw [pow_zero, div_one] at hge hle
  refine ⟨n, ?_, ?_, ?_⟩
  · push_cast
    ring
  · have h : ((millis * 2 ^ f : ℕ) : ℚ) ≤ 1000 * n + 500 := by linarith
    exact_mod_cast h
  · have h : (1000 * n : ℚ) ≤ (millis * 2 ^ f : ℕ) + 500 := by linarith
    exact_mod_cast h

/-- The nearest binary number of milliseconds, when so many seconds are given. -/
theorem exists_millis {n f g : ℕ} (h : Rounds ((1000 * n : ℕ) / 2 ^ f) y)
    (hlow : 2 ^ 52 * 2 ^ g ≤ 1000 * n) (hhigh : 1000 * n < 2 ^ 53 * 2 ^ g) :
    ∃ k : ℕ, Nearest ((1000 * n : ℕ) / 2 ^ g) k ∧ y = k * 2 ^ g / 2 ^ f := by
  refine h.exists_nearest ?_ ?_
  · exact_mod_cast hlow
  · exact_mod_cast hhigh

/-- Seconds that are not rounded down keep their milliseconds. -/
theorem le_of_seconds {n f : ℕ} (hy : Rounds ((1000 * n : ℕ) / 2 ^ f) y)
    (hge : millis * 2 ^ f ≤ 1000 * n) (hpos : 0 < millis) (hlt : 1000 * n < 2 ^ 49 * 2 ^ f) :
    (millis : ℚ) ≤ y := by
  have hf : (0 : ℚ) < 2 ^ f := by positivity
  have hle : (millis : ℚ) ≤ (1000 * n : ℕ) / 2 ^ f := by
    rw [le_div_iff₀ hf]
    exact_mod_cast hge
  have hlt : ((1000 * n : ℕ) : ℚ) / 2 ^ f < 2 ^ (49 : ℤ) := by
    rw [div_lt_iff₀ hf]
    exact_mod_cast hlt
  have hmillis : (0 : ℚ) < millis := by exact_mod_cast hpos
  obtain ⟨e, he⟩ := exists_normal (hmillis.trans_le hle)
  have hneg := he.lt_of_lt_zpow hlt
  exact hy.natCast_le he (by omega) hle

/-- Above the seconds just over a power of two, rounding is fine enough for milliseconds. -/
theorem le_of_not_band (h : TwiceRounded (millis * 1000) y) {f : ℕ}
    (hlow : 2 ^ 62 ≤ millis * 2 ^ f) (hhigh : millis * 2 ^ f < 1000 * 2 ^ 53) (hf : 10 ≤ f) :
    (millis : ℚ) ≤ y := by
  obtain ⟨p, hp, hy⟩ := h
  obtain ⟨n, hn, hge, hle⟩ := exists_seconds hp (by omega) hhigh
  rw [hn] at hy
  obtain ⟨k, hk, rfl⟩ := exists_millis (g := 10) hy (by omega) (by omega)
  obtain ⟨f, rfl⟩ := Nat.exists_eq_add_of_le' hf
  -- the milliseconds are a multiple of the last place, and nearer than a half of it
  have hwhole : millis * 2 ^ (f + 10) = 1024 * (millis * 2 ^ f) := by ring
  have hdist : |((1000 * n : ℕ) : ℚ) / 2 ^ 10 - (millis * 2 ^ f : ℕ)| < 1 / 2 := by
    have hge : (millis * 2 ^ f : ℕ) * (1024 : ℚ) ≤ (1000 * n : ℕ) + 500 := by
      exact_mod_cast (by omega : millis * 2 ^ f * 1024 ≤ 1000 * n + 500)
    have hle : ((1000 * n : ℕ) : ℚ) ≤ (millis * 2 ^ f : ℕ) * 1024 + 500 := by
      exact_mod_cast (by omega : 1000 * n ≤ millis * 2 ^ f * 1024 + 500)
    rw [abs_lt]
    constructor <;> linarith
  obtain rfl := hk.eq_of_dist_lt hdist
  refine le_of_eq ?_
  push_cast
  rw [pow_add]
  field_simp

/-- The rest of a division by a thousand, from a multiple that is not far below. -/
theorem mod_eq_of_near_below {x n : ℕ} (hle : 1000 * n ≤ x) (hx : x ≤ 1000 * n + 500) :
    x % 1000 = x - 1000 * n := by
  omega

/-- The rest of a division by a thousand is zero or great when there is a multiple not far above. -/
theorem mod_of_near_above {x n : ℕ} (hle : x ≤ 1000 * n) (hx : 1000 * n ≤ x + 500) :
    x % 1000 = 0 ∨ 500 ≤ x % 1000 := by
  omega

/-- At the seconds just over a power of two, milliseconds are lost by rounding the seconds down by more
than a half of what the last place of milliseconds is. -/
theorem le_iff_of_band (h : TwiceRounded (millis * 1000) y) {f : ℕ} (hpos : 0 < millis)
    (hlow : 1000 * 2 ^ 52 ≤ millis * 2 ^ f) (hhigh : millis * 2 ^ f < 2 ^ 62) (hf : 14 ≤ f) :
    (millis : ℚ) ≤ y ↔ ¬(256 < millis * 2 ^ f % 1000 ∧ millis * 2 ^ f % 1000 < 500) := by
  obtain ⟨p, hp, hy⟩ := h
  obtain ⟨n, hn, hge, hle⟩ := exists_seconds hp hlow (by omega)
  rw [hn] at hy
  obtain ⟨d, hd⟩ : ∃ d, millis * 2 ^ f = 512 * (2 * d) := by
    obtain ⟨f, rfl⟩ := Nat.exists_eq_add_of_le' hf
    exact ⟨16 * (millis * 2 ^ f), by ring⟩
  have hpow : (0 : ℚ) < 2 ^ f := by positivity
  rcases Nat.lt_or_ge (1000 * n) (millis * 2 ^ f) with hdown | hup
  · obtain ⟨k, hk, rfl⟩ := exists_millis (g := 9) hy (by omega) (by omega)
    -- the milliseconds are an even multiple of the last place
    have hle_iff : (millis : ℚ) ≤ k * 2 ^ 9 / 2 ^ f ↔ 2 * d ≤ k := by
      rw [le_div_iff₀ hpow]
      have hiff : millis * 2 ^ f ≤ k * 2 ^ 9 ↔ 2 * d ≤ k := by omega
      exact_mod_cast hiff
    have hhalf : ((2 * d : ℕ) : ℚ) - 1 / 2 ≤ (1000 * n : ℕ) / 2 ^ 9 ↔
        512 * (2 * d) ≤ 1000 * n + 256 := by
      rw [le_div_iff₀ (by positivity), sub_mul, sub_le_iff_le_add]
      norm_num
      have hiff : 2 * d * 512 ≤ 1000 * n + 256 ↔ 512 * (2 * d) ≤ 1000 * n + 256 := by omega
      exact_mod_cast hiff
    have hrest := mod_eq_of_near_below hdown.le hge
    rw [hle_iff, hk.even_le_iff, hhalf, hrest, hd]
    omega
  · have hbound : 2 ^ 14 ≤ 2 ^ f := Nat.pow_le_pow_right two_pos hf
    refine iff_of_true (le_of_seconds hy hup hpos ?_) ?_
    · omega
    · rcases mod_of_near_above hup hle with hzero | hgreat
      · rw [hzero]
        omega
      · omega

/-- Whole milliseconds are kept by rounding unless they slip. -/
theorem floor_eq_iff_not_slips (h : TwiceRounded (millis * 1000) y) (hpos : 0 < millis)
    (hlt : millis < 2 ^ 48) : ⌊y⌋₊ = millis ↔ ¬Slips millis := by
  have hfloor : ⌊y⌋₊ = millis ↔ (millis : ℚ) ≤ y := by
    have hdist := h.dist_lt (by omega)
    push_cast at hdist
    have hmillis : (millis : ℚ) < 2 ^ 48 := by exact_mod_cast hlt
    rw [mul_div_assoc, div_self (by norm_num), mul_one] at hdist
    have hnear : |y - millis| < 1 := by linarith
    rw [Nat.floor_eq_iff h.nonneg]
    exact and_iff_left (by linarith [(abs_lt.1 hnear).2])
  have hlog : millis.log2 < 48 := (Nat.log2_lt hpos.ne').2 hlt
  obtain ⟨f, hf⟩ : ∃ f, f + millis.log2 = 61 := ⟨61 - millis.log2, by omega⟩
  have hpow : 2 ^ f * 2 ^ millis.log2 = 2 ^ 61 := by rw [← pow_add, hf]
  have hlow : 2 ^ 61 ≤ millis * 2 ^ f := by
    rw [← hpow, mul_comm millis]
    exact Nat.mul_le_mul_left _ (Nat.log2_self_le hpos.ne')
  have hhigh : millis * 2 ^ f < 2 ^ 62 := by
    rw [pow_succ, ← hpow, mul_assoc, ← pow_succ, mul_comm millis]
    exact Nat.mul_lt_mul_of_pos_left Nat.lt_log2_self (by positivity)
  have hband : 125 * 2 ^ (millis.log2 + 1) ≤ 128 * millis ↔ 1000 * 2 ^ 52 ≤ millis * 2 ^ f := by
    have hleft : 2 ^ f * (125 * 2 ^ (millis.log2 + 1)) = 250 * 2 ^ 61 := by
      rw [← hpow]
      ring
    have hright : 2 ^ f * (128 * millis) = 128 * (millis * 2 ^ f) := by ring
    rw [← Nat.mul_le_mul_left_iff (Nat.two_pow_pos f), hleft, hright]
    omega
  rw [hfloor, Slips, show 61 - millis.log2 = f by omega, hband]
  rcases Nat.lt_or_ge (millis * 2 ^ f) (1000 * 2 ^ 52) with hbelow | habove
  · have hnext : millis * 2 ^ (f + 1) = 2 * (millis * 2 ^ f) := by ring
    refine iff_of_true (le_of_not_band h (f := f + 1) ?_ ?_ ?_) fun hslips => ?_
    · omega
    · omega
    · omega
    · exact absurd hslips.1 (Nat.not_le.2 hbelow)
  · rw [le_iff_of_band h hpos habove hhigh (by omega)]
    simp only [habove, true_and]

end Whole

/-! ### The milliseconds of a moment -/

section Milliseconds

variable {m : Moment}

theorem holds_thousand : Holds (ofInt 1000) false 1000 := by
  refine ⟨1000 * 2 ^ 43, -43, by decide +kernel, ?_⟩
  norm_num

/-- A thousand times the seconds, both as binary numbers, are milliseconds that were rounded twice. -/
theorem exists_twiceRounded (negative : Bool) {micros : ℕ} (hpos : 0 < micros)
    (hlt : micros < 2 ^ 58) :
    ∃ y, TwiceRounded micros y ∧
      Holds (mul (ofRatio negative micros 1000000) (ofInt 1000)) negative y := by
  have hmicros : (1 : ℚ) ≤ micros := by exact_mod_cast hpos
  have hmicros' : (micros : ℚ) < 2 ^ 58 := by exact_mod_cast hlt
  -- both sizes are in the middle of the format, far from its ends
  obtain ⟨e, he⟩ := exists_normal (q := micros / 1000000) (by positivity)
  have hlow := he.lt_of_zpow_le (n := -20) (by norm_num; linarith)
  have hhigh := he.lt_of_lt_zpow (n := 40) (by norm_num; linarith)
  have hmillion : 0 < 1000000 := by norm_num
  obtain ⟨p, hseconds, hp⟩ := holds_ofRatio negative hpos hmillion
    (by exact_mod_cast he) (by rw [minExponent]; omega) (by rw [maxExponent]; omega)
  obtain ⟨num, den, hden, hratio, hmul⟩ := hseconds.mul_eq holds_thousand
  have hp : Rounds (micros / 1000000) p := by exact_mod_cast hp
  have hdist := hp.dist_le
  have hp_low : 2 ^ (-21 : ℤ) ≤ p * 1000 := by
    norm_num
    linarith [neg_abs_le (p - micros / 1000000)]
  have hp_high : p * 1000 < 2 ^ (60 : ℤ) := by
    norm_num
    linarith [le_abs_self (p - micros / 1000000)]
  obtain ⟨d, hd⟩ := exists_normal (lt_of_lt_of_le (by positivity) hp_low)
  have hlow' := hd.lt_of_zpow_le hp_low
  have hhigh' := hd.lt_of_lt_zpow hp_high
  have hnum : 0 < num := by
    have hden' : (0 : ℚ) < den := by exact_mod_cast hden
    have hnum : (0 : ℚ) < num := by
      rw [div_eq_iff hden'.ne'] at hratio
      rw [hratio]
      exact mul_pos hd.pos hden'
    exact_mod_cast hnum
  rw [← hratio] at hd
  obtain ⟨y, hmillis, hy⟩ := holds_ofRatio (negative != false) hnum hden hd
    (by rw [minExponent]; omega) (by rw [maxExponent]; omega)
  rw [hratio] at hy
  rw [hmul]
  exact ⟨y, ⟨p, hp, hy⟩, by rwa [Bool.bne_false] at hmillis ⊢⟩

/-- The milliseconds of a moment are the whole part of milliseconds that were rounded twice, and have its
sign. -/
theorem exists_epochMillis (hne : m.epochMicros ≠ 0) (hlt : m.epochMicros.natAbs < 2 ^ 58) :
    ∃ y, TwiceRounded m.epochMicros.natAbs y ∧
      m.epochMillis = if m.epochMicros < 0 then -(⌊y⌋₊ : ℤ) else ⌊y⌋₊ := by
  obtain ⟨y, hy, hmillis⟩ :=
    exists_twiceRounded (m.epochMicros < 0) (Int.natAbs_pos.2 hne) hlt
  refine ⟨y, hy, ?_⟩
  rw [epochMillis, epochSeconds, ofIntRatio, hmillis.truncate?_eq]
  simp

theorem epochMillis_of_epoch (h : m.epochMicros = 0) : m.epochMillis = 0 := by
  rw [epochMillis, epochSeconds, h]
  decide +kernel

/-- What can be written in UTC lies within `2 ^ 48` milliseconds of 1970. -/
theorem HasUtc.natAbs_lt (h : m.HasUtc) : m.epochMicros.natAbs < 1000 * 2 ^ 48 := by
  obtain ⟨hlow, hhigh⟩ := hasUtc_iff.1 h
  have hend : Calendar.daysThrough Calendar.lastYear = 3652059 := by
    rw [Calendar.daysThrough_eq, Calendar.lastYear]
  rw [endOfTime, hend, dayMicros] at hhigh
  rw [epochMicros, Calendar.epochDay, dayMicros]
  omega

/-- What the milliseconds of a moment are, their sign apart. -/
theorem HasUtc.exists_epochMillis (h : m.HasUtc) :
    ∃ k : ℕ, m.epochMillis = (if m.epochMicros < 0 then -(k : ℤ) else k) ∧
      (m.epochMicros.natAbs / 1000 ≤ k + 1 ∧ k ≤ m.epochMicros.natAbs / 1000 + 1) ∧
      (1000 ∣ m.epochMicros.natAbs →
        (k = m.epochMicros.natAbs / 1000 ↔ ¬Slips (m.epochMicros.natAbs / 1000))) ∧
      (Apart m.epochMicros.natAbs → k = m.epochMicros.natAbs / 1000) := by
  have hlt := h.natAbs_lt
  by_cases hzero : m.epochMicros = 0
  · rw [epochMillis_of_epoch hzero, hzero]
    exact ⟨0, rfl, by decide, by decide, by decide⟩
  · obtain ⟨y, hy, hmillis⟩ := Moment.exists_epochMillis hzero (by omega)
    have hpos := Int.natAbs_pos.2 hzero
    refine ⟨⌊y⌋₊, hmillis, hy.floor_near hpos (by omega), fun hwhole => ?_, hy.floor_of_apart hpos⟩
    obtain ⟨millis, hmillis⟩ := hwhole
    rw [hmillis, mul_comm] at hy
    rw [hmillis, Nat.mul_div_cancel_left millis (by norm_num)]
    exact floor_eq_iff_not_slips hy (by omega) (by omega)

/-- The stamp of a moment tells its instant, counted from 1970 and rounded down to the millisecond. -/
theorem HasUtc.exists_stamp (h : m.HasUtc) :
    ∃ s u, m.stamp = .ok s ∧ ofStamp? s = some u ∧
      u.epochMicros = m.epochMicros / 1000 * 1000 := by
  obtain ⟨u, hu, hutc, hinstant⟩ := exists_toUtc h
  refine ⟨_, u.floor, stamp_eq_ok hu, hutc.ofStamp?_stampChars, ?_⟩
  rw [epochMicros, epochMicros, hutc.instant_floor, hinstant, Calendar.epochDay, dayMicros]
  omega

theorem tdiv_thousand (n : ℤ) :
    n.tdiv 1000 = if n < 0 then -((n.natAbs / 1000 : ℕ) : ℤ) else (n.natAbs / 1000 : ℕ) := by
  split
  · next hneg => rw [← Int.neg_neg n, Int.neg_tdiv, Int.tdiv_eq_ediv_of_nonneg (by omega)]; omega
  · next hpos => rw [Int.tdiv_eq_ediv_of_nonneg (by omega)]; omega

end Milliseconds

end Moment

namespace Export.Record

open Moment

/-- **The millisecond of a file name.** The stamp of a record tells its instant, rounded down to the
millisecond. The number in the name of its file is at most one away from the milliseconds without their
fraction. For whole milliseconds it is that of the stamp exactly when they do not slip. For all other
instants that keep clear of whole milliseconds, as all do between 1827 and 2112, it has the fraction
dropped towards 1970, and so it is that of the stamp exactly from 1970 on. -/
theorem fileName_tells {r : Record} (h : r.moment.HasUtc) :
    ∃ s u n, r.moment.stamp = .ok s ∧ ofStamp? s = some u ∧
      u.epochMicros = r.moment.epochMicros / 1000 * 1000 ∧
      r.fileName = "metaprompt_" ++ toString n ++ ".json" ∧
      (n - r.moment.epochMicros.tdiv 1000).natAbs ≤ 1 ∧
      (1000 ∣ r.moment.epochMicros →
        (n * 1000 = u.epochMicros ↔ ¬Slips (r.moment.epochMicros.natAbs / 1000))) ∧
      (¬1000 ∣ r.moment.epochMicros → Apart r.moment.epochMicros.natAbs →
        n = r.moment.epochMicros.tdiv 1000 ∧
          (n * 1000 = u.epochMicros ↔ 0 ≤ r.moment.epochMicros)) := by
  obtain ⟨s, u, hs, hu, hmillis⟩ := h.exists_stamp
  obtain ⟨k, hk, hnear, hwhole, hapart⟩ := h.exists_epochMillis
  refine ⟨s, u, _, hs, hu, hmillis, rfl, ?_, fun hdvd => ?_, fun hdvd hclear => ?_⟩
  · rw [hk, tdiv_thousand]
    omega
  · rw [← hwhole (Int.natAbs_dvd_natAbs.2 hdvd), hk, hmillis]
    omega
  · obtain rfl := hapart hclear
    rw [hk, hmillis, tdiv_thousand]
    omega

/-- A record of a moment in Paris. -/
def springRecord : Record := ⟨{}, ∅, "", ⟨2024, 5, 1, 14, 30, 45, 123456, some 7200⟩⟩

theorem hasUtc_springRecord : springRecord.moment.HasUtc :=
  ⟨⟨2024, 5, 1, 12, 30, 45, 123456, some 0⟩, (isPossible_iff_of_offset rfl).1 (by decide),
    by decide +kernel⟩

/-- The stamp and the file name of the record tell the same millisecond. -/
theorem fileName_tells_spring :
    springRecord.moment.HasUtc ∧ ∃ s u n, springRecord.moment.stamp = .ok s ∧ ofStamp? s = some u ∧
      springRecord.fileName = "metaprompt_" ++ toString n ++ ".json" ∧ n * 1000 = u.epochMicros := by
  obtain ⟨s, u, n, hs, hu, -, hname, -, -, hapart⟩ := fileName_tells hasUtc_springRecord
  have hclear : Apart springRecord.moment.epochMicros.natAbs := by decide +kernel
  have hlater : 0 ≤ springRecord.moment.epochMicros := by decide +kernel
  have hpart : ¬1000 ∣ springRecord.moment.epochMicros := by decide +kernel
  exact ⟨hasUtc_springRecord, s, u, n, hs, hu, hname, (hapart hpart hclear).2.2 hlater⟩

/-- The second is one millisecond old, and the name of the file tells none. -/
theorem fileName_slips :
    let r : Record := ⟨{}, ∅, "", ⟨1970, 1, 1, 0, 0, 1, 1000, some 0⟩⟩
    r.moment.stamp = .ok "1970-01-01T00:00:01.001Z" ∧ r.moment.epochMicros / 1000 = 1001 ∧
      r.fileName = "metaprompt_1000.json" ∧
      r.fileName ≠ "metaprompt_" ++ toString (r.moment.epochMicros / 1000) ++ ".json" := by
  decide +kernel

end Export.Record

end PromptForm
