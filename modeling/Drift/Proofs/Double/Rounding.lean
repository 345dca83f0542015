import Drift.Double.Shortest
import Mathlib.Algebra.Order.Field.Power
import Mathlib.Data.Rat.Cast.Order
import Mathlib.Tactic.FieldSimp
import Mathlib.Tactic.Linarith
import Mathlib.Tactic.NormNum
import Mathlib.Tactic.Positivity
import Mathlib.Tactic.Ring

/-!
# Fractions that round to a double

* `Double.Parts` — a finite double by its mantissa and its exponent.
* `Double.Rounds` — the fractions in the rounding interval of a finite double.
* **`Double.ofRatio_of_rounds`** — it is the double nearest to each of them.
-/

namespace Drift.Double

/-! ## Shifts -/

theorem two_pow_natAbs {z : Int} (h : ¬ z < 0) : (2 : ℚ) ^ z.natAbs = 2 ^ z := by
  rw [← zpow_natCast, Int.natAbs_of_nonneg (by omega)]

theorem two_pow_natAbs_neg {z : Int} (h : z < 0) : (2 : ℚ) ^ z.natAbs = (2 ^ z)⁻¹ := by
  rw [← zpow_natCast, Int.ofNat_natAbs_of_nonpos (by omega), zpow_neg]

/-! ## The leading bit -/

variable {num den : Nat}

theorem two_pow_log2_le (h : 0 < num) : (2 : ℚ) ^ (num.log2 : Int) ≤ num := by
  rw [zpow_natCast]
  exact_mod_cast Nat.log2_self_le (Nat.pos_iff_ne_zero.1 h)

theorem lt_two_pow_log2 : (num : ℚ) < 2 ^ ((num.log2 : Int) + 1) := by
  have hlt : num < 2 ^ (num.log2 + 1) := Nat.lt_log2_self
  have hcast : (num : ℚ) < 2 ^ (num.log2 + 1) := by exact_mod_cast hlt
  exact_mod_cast hcast

theorem ratio_between (hnum : 0 < num) (hden : 0 < den) :
    (2 : ℚ) ^ ((num.log2 : Int) - den.log2 - 1) ≤ num / den ∧
      (num : ℚ) / den < 2 ^ ((num.log2 : Int) - den.log2 + 1) := by
  have hden' : (0 : ℚ) < den := by exact_mod_cast hden
  constructor
  · rw [le_div_iff₀ hden']
    calc (2 : ℚ) ^ ((num.log2 : Int) - den.log2 - 1) * den
        ≤ 2 ^ ((num.log2 : Int) - den.log2 - 1) * 2 ^ ((den.log2 : Int) + 1) := by
          gcongr
          exact lt_two_pow_log2.le
      _ = 2 ^ (num.log2 : Int) := by rw [← zpow_add₀ two_ne_zero]; congr 1; ring
      _ ≤ num := two_pow_log2_le hnum
  · rw [div_lt_iff₀ hden']
    calc (num : ℚ) < 2 ^ ((num.log2 : Int) + 1) := lt_two_pow_log2
      _ = 2 ^ ((num.log2 : Int) - den.log2 + 1) * 2 ^ (den.log2 : Int) := by
          rw [← zpow_add₀ two_ne_zero]; congr 1; ring
      _ ≤ 2 ^ ((num.log2 : Int) - den.log2 + 1) * den := by
          gcongr
          exact two_pow_log2_le hden

theorem shifted_lt_iff (num : Nat) (hden : 0 < den) (z : Int) :
    (if z < 0 then decide (num <<< z.natAbs < den) else decide (num < den <<< z.natAbs)) = true ↔
      (num : ℚ) / den < 2 ^ z := by
  have hden' : (0 : ℚ) < den := by exact_mod_cast hden
  rw [div_lt_iff₀ hden']
  split
  · next hz =>
    rw [decide_eq_true_iff, Nat.shiftLeft_eq, ← Nat.cast_lt (α := ℚ)]
    push_cast
    rw [two_pow_natAbs_neg hz, ← div_eq_mul_inv, div_lt_iff₀ (by positivity), mul_comm]
  · next hz =>
    rw [decide_eq_true_iff, Nat.shiftLeft_eq, ← Nat.cast_lt (α := ℚ)]
    push_cast
    rw [two_pow_natAbs hz, mul_comm]

/-- The leading bit is the greatest power of two that **is no greater than the fraction**. -/
theorem leadingBit_spec (hnum : 0 < num) (hden : 0 < den) :
    (2 : ℚ) ^ leadingBit num den ≤ num / den ∧ (num : ℚ) / den < 2 ^ (leadingBit num den + 1) := by
  obtain ⟨hlow, hhigh⟩ := ratio_between hnum hden
  have hbelow := shifted_lt_iff num hden ((num.log2 : Int) - den.log2)
  unfold leadingBit
  simp only
  split_ifs at hbelow ⊢ with hneg h h
  · exact ⟨hlow, by rw [sub_add_cancel]; exact hbelow.1 (decide_eq_true h)⟩
  · exact ⟨not_lt.1 fun hlt => h (of_decide_eq_true (hbelow.2 hlt)), hhigh⟩
  · exact ⟨hlow, by rw [sub_add_cancel]; exact hbelow.1 (decide_eq_true h)⟩
  · exact ⟨not_lt.1 fun hlt => h (of_decide_eq_true (hbelow.2 hlt)), hhigh⟩

theorem leadingBit_eq (hnum : 0 < num) (hden : 0 < den) {z : Int} (hlow : (2 : ℚ) ^ z ≤ num / den)
    (hhigh : (num : ℚ) / den < 2 ^ (z + 1)) : leadingBit num den = z := by
  obtain ⟨hlow', hhigh'⟩ := leadingBit_spec hnum hden
  have hle : leadingBit num den < z + 1 :=
    (zpow_lt_zpow_iff_right₀ one_lt_two).1 (hlow'.trans_lt hhigh)
  have hge : z < leadingBit num den + 1 :=
    (zpow_lt_zpow_iff_right₀ one_lt_two).1 (hlow.trans_lt hhigh')
  omega

/-! ## Rounding to whole numbers -/

theorem roundHalfEven_eq {k : Nat} (hlow : 2 * k * den ≤ 2 * num + den)
    (hhigh : 2 * num ≤ 2 * k * den + den)
    (htie : k % 2 = 0 ∨ 2 * k * den < 2 * num + den ∧ 2 * num < 2 * k * den + den)
    (hden : 0 < den) : roundHalfEven num den = k := by
  have hdiv := Nat.div_add_mod num den
  have hmod := Nat.mod_lt num hden
  unfold roundHalfEven
  simp only
  generalize num / den = whole at *
  generalize num % den = rest at *
  -- The number is one of the two next to the fraction.
  have hwhole : whole ≤ k := by
    by_contra h
    have hmul : (k + 1) * den ≤ whole * den := Nat.mul_le_mul_right _ (by omega)
    nlinarith
  have hnext : k ≤ whole + 1 := by
    by_contra h
    have hmul : (whole + 2) * den ≤ k * den := Nat.mul_le_mul_right _ (by omega)
    nlinarith
  obtain rfl | rfl : k = whole ∨ k = whole + 1 := by omega
  · have hrest : 2 * rest ≤ den := by nlinarith
    rcases htie with heven | ⟨-, hlt⟩
    · split_ifs <;> omega
    · have hlt' : 2 * rest < den := by nlinarith
      rw [if_pos hlt']
  · have hrest : den ≤ 2 * rest := by nlinarith
    rcases htie with heven | ⟨hlt, -⟩
    · split_ifs <;> omega
    · have hlt' : den < 2 * rest := by nlinarith
      rw [if_neg (by omega), if_pos hlt']

theorem roundHalfEven_eq_of_ratio {k : Nat} (hden : 0 < den) (hlow : (k - 1 / 2 : ℚ) ≤ num / den)
    (hhigh : (num : ℚ) / den ≤ k + 1 / 2)
    (htie : k % 2 = 0 ∨ (k - 1 / 2 : ℚ) < num / den ∧ (num : ℚ) / den < k + 1 / 2) :
    roundHalfEven num den = k := by
  have hden' : (0 : ℚ) < den := by exact_mod_cast hden
  rw [le_div_iff₀ hden'] at hlow
  rw [div_le_iff₀ hden'] at hhigh
  rw [lt_div_iff₀ hden', div_lt_iff₀ hden'] at htie
  have hlow' : (2 * k * den : ℚ) ≤ 2 * num + den := by linarith
  have hhigh' : (2 * num : ℚ) ≤ 2 * k * den + den := by linarith
  refine roundHalfEven_eq (by exact_mod_cast hlow') (by exact_mod_cast hhigh') ?_ hden
  refine htie.imp_right fun ⟨hlt, hgt⟩ => ?_
  have hlt' : (2 * k * den : ℚ) < 2 * num + den := by linarith
  have hgt' : (2 * num : ℚ) < 2 * k * den + den := by linarith
  exact ⟨by exact_mod_cast hlt', by exact_mod_cast hgt'⟩

theorem inUnits_eq {k : Nat} {z : Int} (hden : 0 < den) (hlow : (k - 1 / 2 : ℚ) * 2 ^ z ≤ num / den)
    (hhigh : (num : ℚ) / den ≤ (k + 1 / 2) * 2 ^ z)
    (htie : k % 2 = 0 ∨ (k - 1 / 2 : ℚ) * 2 ^ z < num / den ∧
      (num : ℚ) / den < (k + 1 / 2) * 2 ^ z) : inUnits num den z = k := by
  have hpos : (0 : ℚ) < 2 ^ z := by positivity
  rw [← le_div_iff₀ hpos] at hlow
  rw [← div_le_iff₀ hpos] at hhigh
  rw [← lt_div_iff₀ hpos, ← div_lt_iff₀ hpos] at htie
  unfold inUnits
  split
  · next hz =>
    have hscale : ((num <<< z.natAbs : Nat) : ℚ) / den = num / den / 2 ^ z := by
      rw [Nat.shiftLeft_eq]
      push_cast
      rw [two_pow_natAbs_neg hz]
      ring
    rw [← hscale] at hlow hhigh htie
    exact roundHalfEven_eq_of_ratio hden hlow hhigh htie
  · next hz =>
    have hscale : (num : ℚ) / (den <<< z.natAbs : Nat) = num / den / 2 ^ z := by
      rw [Nat.shiftLeft_eq]
      push_cast
      rw [two_pow_natAbs hz, div_div]
    rw [← hscale] at hlow hhigh htie
    exact roundHalfEven_eq_of_ratio (by rw [Nat.shiftLeft_eq]; positivity) hlow hhigh htie

/-! ## The parts of a double -/

/-- A finite double **by its mantissa and its exponent**. -/
structure Parts (x : Double) (mantissa : Nat) (exponent : Int) : Prop where
  magnitude : x.magnitude = (mantissa, exponent)
  small : mantissa < 2 ^ 53
  least : -1074 ≤ exponent
  greatest : exponent ≤ 971
  normal : exponent = -1074 ∨ 2 ^ 52 ≤ mantissa
  bits : ofBits x.isNegative (((exponent + 1074).toNat <<< 52) + mantissa) = x
  interval : x.interval =
    (4 * mantissa - if mantissa = 2 ^ 52 ∧ -1074 < exponent then 1 else 2, 4 * mantissa + 2,
      mantissa % 2 == 0)

theorem fields_eq (x : Double) : x.bits.toNat =
    (if x.isNegative then 2 ^ 63 else 0) + x.exponentField * 2 ^ 52 + x.fraction := by
  have hlt := x.bits.toNat_lt
  unfold isNegative exponentField fraction
  simp only [Nat.shiftRight_eq_div_pow, Nat.one_shiftLeft, beq_iff_eq]
  split <;> omega

theorem ofBits_fields (x : Double) :
    ofBits x.isNegative (x.exponentField * 2 ^ 52 + x.fraction) = x := by
  have hbits := x.fields_eq
  have hx : x = ⟨UInt64.ofNat x.bits.toNat⟩ := by rw [UInt64.ofNat_toNat]
  conv_rhs => rw [hx, hbits]
  unfold ofBits
  split <;> congr 2 <;> omega

theorem not_nan_of_isFinite {x : Double} (h : x.isFinite = true) : x.isNaN = false := by
  have hfield : x.exponentField < 2047 := of_decide_eq_true h
  unfold isNaN
  rw [beq_eq_false_iff_ne.2 (by omega), Bool.false_and]

theorem parts (x : Double) (h : x.isFinite = true) : Parts x x.magnitude.1 x.magnitude.2 := by
  have hfield : x.exponentField < 2047 := of_decide_eq_true h
  have hfraction : x.fraction < 2 ^ 52 := Nat.mod_lt _ (by norm_num)
  have hbits := x.ofBits_fields
  have hinterval : x.interval = (4 * x.magnitude.1 -
      (if x.fraction == 0 && 1 < x.exponentField then 1 else 2), 4 * x.magnitude.1 + 2,
      x.magnitude.1 % 2 == 0) := rfl
  by_cases hzero : x.exponentField = 0
  · have hmagnitude : x.magnitude = (x.fraction, -1074) := by
      unfold Double.magnitude
      rw [if_pos (beq_iff_eq.2 hzero)]
    rw [hmagnitude] at hinterval ⊢
    refine ⟨hmagnitude, by simp only; omega, le_rfl, by norm_num, .inl rfl, ?_, ?_⟩
    · rw [hzero] at hbits
      simpa using hbits
    · rw [hinterval, hzero]
      simp
  · have hmagnitude : x.magnitude = (2 ^ 52 + x.fraction, (x.exponentField : Int) - 1075) := by
      unfold Double.magnitude
      rw [if_neg (mt beq_iff_eq.1 hzero)]
      rfl
    rw [hmagnitude] at hinterval ⊢
    refine ⟨hmagnitude, by simp only; omega, by simp only; omega, by simp only; omega,
      .inr (by simp only; omega), ?_, ?_⟩
    · have hsum : (((x.exponentField : Int) - 1075 + 1074).toNat <<< 52) + (2 ^ 52 + x.fraction)
          = x.exponentField * 2 ^ 52 + x.fraction := by
        rw [Nat.shiftLeft_eq]
        omega
      rw [hsum, hbits]
    · rw [hinterval]
      congr 2
      simp only [Bool.and_eq_true, beq_iff_eq, decide_eq_true_eq]
      congr 1
      simp only [eq_iff_iff]
      omega

/-! ## The nearest double -/

/-- A quarter of the unit that the mantissa counts. -/
def quarter (x : Double) : ℚ := 2 ^ (x.magnitude.2 - 2)

/-- A fraction **lies in the rounding interval** of a finite double, whose ends belong to it when the
mantissa is even. -/
structure Rounds (x : Double) (q : ℚ) : Prop where
  lower : x.interval.1 * x.quarter ≤ q
  upper : q ≤ x.interval.2.1 * x.quarter
  inner : x.interval.2.2 = false →
    x.interval.1 * x.quarter < q ∧ q < x.interval.2.1 * x.quarter

variable {x : Double}

theorem quarter_eq {m : Nat} {e : Int} (hx : Parts x m e) : x.quarter = 2 ^ e / 4 := by
  rw [quarter, hx.magnitude, zpow_sub₀ two_ne_zero]
  norm_num

/-- The interval around a mantissa `m`: half a unit up, and half a unit down unless the units below
are smaller. -/
theorem Rounds.bounds {m : Nat} {e : Int} {q : ℚ} (h : Rounds x q) (hx : Parts x m e) (hm : 0 < m) :
    ¬ (m = 2 ^ 52 ∧ -1074 < e) ∧ (m - 1 / 2 : ℚ) * 2 ^ e ≤ q ∧ q ≤ (m + 1 / 2) * 2 ^ e ∧
        (m % 2 = 0 ∨ (m - 1 / 2 : ℚ) * 2 ^ e < q ∧ q < (m + 1 / 2) * 2 ^ e) ∨
      m = 2 ^ 52 ∧ -1074 < e ∧ (m - 1 / 4 : ℚ) * 2 ^ e ≤ q ∧ q ≤ (m + 1 / 2) * 2 ^ e := by
  have hquarter := quarter_eq hx
  obtain ⟨hlower, hupper, hinner⟩ := h
  rw [hx.interval, hquarter] at hlower hupper hinner
  simp only [Nat.cast_add, Nat.cast_mul, Nat.cast_ofNat] at hlower hupper hinner
  by_cases hpower : m = 2 ^ 52 ∧ -1074 < e
  · rw [if_pos hpower, Nat.cast_sub (by omega)] at hlower
    push_cast at hlower
    exact .inr ⟨hpower.1, hpower.2, by linarith, by linarith⟩
  · rw [if_neg hpower, Nat.cast_sub (by omega)] at hlower hinner
    push_cast at hlower hinner
    refine .inl ⟨hpower, by linarith, by linarith, ?_⟩
    by_cases heven : m % 2 = 0
    · exact .inl heven
    · obtain ⟨hlt, hgt⟩ := hinner (beq_eq_false_iff_ne.2 heven)
      exact .inr ⟨by linarith, by linarith⟩

theorem Parts.encoded_lt {m : Nat} {e : Int} (hx : Parts x m e) :
    ((e + 1074).toNat <<< 52) + m < 2047 <<< 52 := by
  obtain ⟨-, hsmall, hleast, hgreatest, -, -, -⟩ := hx
  rw [Nat.shiftLeft_eq, Nat.shiftLeft_eq]
  omega

theorem ofRatio_eq_ofBits {negative : Bool} {exponent : Int} {k bits : Nat} (hnum : num ≠ 0)
    (hexponent : max (leadingBit num den - 52) (-1074) = exponent)
    (hk : inUnits num den exponent = k) (hbits : ((exponent + 1074).toNat <<< 52) + k = bits)
    (hlt : bits < 2047 <<< 52) : ofRatio negative num den = ofBits negative bits := by
  unfold ofRatio
  rw [if_neg (by simpa using hnum)]
  simp only [hexponent, hk, hbits]
  exact if_neg (Nat.not_le.2 hlt)

theorem Rounds.le_upper {m : Nat} {e : Int} {q : ℚ} (h : Rounds x q) (hx : Parts x m e)
    (hm : 0 < m) : q ≤ (m + 1 / 2) * 2 ^ e := by
  rcases h.bounds hx hm with ⟨-, -, hhigh, -⟩ | ⟨-, -, -, hhigh⟩ <;> exact hhigh

theorem Rounds.num_pos {m : Nat} {e : Int} (h : Rounds x (num / den)) (hx : Parts x m e)
    (hm : 0 < m) : 0 < num := by
  have hm' : (1 : ℚ) ≤ m := by exact_mod_cast hm
  have hunit : (0 : ℚ) < 2 ^ e := by positivity
  have hpos : (0 : ℚ) < num / den := by
    rcases h.bounds hx hm with ⟨-, hlow, -⟩ | ⟨-, -, hlow, -⟩ <;> nlinarith
  rcases Nat.eq_zero_or_pos num with rfl | hnum
  · simp at hpos
  · exact hnum

section

variable {m : Nat} {e : Int} (hx : Parts x m e) (hm : 0 < m) (hden : 0 < den)
  (h : Rounds x (num / den))

include hx hm hden h

theorem leadingBit_le : leadingBit num den ≤ e + 52 := by
  have hsmall : (m : ℚ) ≤ 2 ^ 53 - 1 := by
    have hle : m + 1 ≤ 2 ^ 53 := hx.small
    have hle' : (m : ℚ) + 1 ≤ 2 ^ 53 := by exact_mod_cast hle
    linarith
  have htop : (num : ℚ) / den < 2 ^ (e + 52 + 1) := by
    rw [add_assoc, zpow_add₀ two_ne_zero]
    refine (h.le_upper hx hm).trans_lt ?_
    have hunit : (0 : ℚ) < 2 ^ e := by positivity
    norm_num
    nlinarith
  have hlt := (zpow_lt_zpow_iff_right₀ one_lt_two).1
    ((leadingBit_spec (h.num_pos hx hm) hden).1.trans_lt htop)
  omega

theorem ofRatio_of_units (hunits : (2 : ℚ) ^ (e + 52) ≤ num / den ∨ e = -1074) :
    ofRatio x.isNegative num den = x := by
  have hnum := h.num_pos hx hm
  have hlead := leadingBit_le hx hm hden h
  have hexponent : max (leadingBit num den - 52) (-1074) = e := by
    rcases hunits with hbit | rfl
    · have hlt := (zpow_lt_zpow_iff_right₀ one_lt_two).1
        (hbit.trans_lt (leadingBit_spec hnum hden).2)
      have hleast := hx.least
      omega
    · omega
  have hk : inUnits num den e = m := by
    have hhigh := h.le_upper hx hm
    rcases h.bounds hx hm with ⟨-, hlow, -, htie⟩ | ⟨rfl, hgreater, hlow, -⟩
    · exact inUnits_eq hden hlow hhigh htie
    · refine inUnits_eq hden (le_trans ?_ hlow) hhigh (.inl (by norm_num))
      gcongr
      norm_num
  exact (ofRatio_eq_ofBits hnum.ne' hexponent hk rfl hx.encoded_lt).trans hx.bits

theorem ofRatio_of_below (hbelow : (num : ℚ) / den < 2 ^ (e + 52)) (hne : e ≠ -1074) :
    ofRatio x.isNegative num den = x := by
  have hnum := h.num_pos hx hm
  have hunit : (0 : ℚ) < 2 ^ e := by positivity
  have hhigh := h.le_upper hx hm
  have hnormal := hx.normal
  rw [zpow_add₀ two_ne_zero] at hbelow
  norm_num at hbelow
  rcases h.bounds hx hm with ⟨hpower, hlow, -⟩ | ⟨rfl, hgreater, hlow, -⟩
  · have hleast := hx.least
    have hlarge : 2 ^ 52 + 1 ≤ m := by omega
    have hlarge' : (2 ^ 52 + 1 : ℚ) ≤ m := by exact_mod_cast hlarge
    nlinarith
  · have hhalf : (2 : ℚ) ^ (e - 1) = 2 ^ e / 2 := by
      rw [zpow_sub₀ two_ne_zero]
      norm_num
    norm_num at hlow hhigh
    have hbit : leadingBit num den = e + 51 := by
      refine leadingBit_eq hnum hden ?_ ?_
      · rw [zpow_add₀ two_ne_zero]
        norm_num
        linarith
      · rw [add_assoc, zpow_add₀ two_ne_zero]
        norm_num
        linarith
    have hk : inUnits num den (e - 1) = 2 ^ 53 := by
      refine inUnits_eq hden ?_ ?_ (.inl (by norm_num))
      · rw [hhalf]
        norm_num
        linarith
      · rw [hhalf]
        norm_num
        linarith
    refine (ofRatio_eq_ofBits hnum.ne' (by omega) hk ?_ hx.encoded_lt).trans hx.bits
    rw [Nat.shiftLeft_eq, Nat.shiftLeft_eq]
    omega

end

/-- A finite double is **the nearest one to every fraction in its interval**. -/
theorem ofRatio_of_rounds (hfinite : x.isFinite = true) (hm : 0 < x.magnitude.1) (hden : 0 < den)
    (h : Rounds x (num / den)) : ofRatio x.isNegative num den = x := by
  have hx := x.parts hfinite
  by_cases hunits : (2 : ℚ) ^ (x.magnitude.2 + 52) ≤ num / den ∨ x.magnitude.2 = -1074
  · exact ofRatio_of_units hx hm hden h hunits
  · obtain ⟨hbelow, hne⟩ := not_or.1 hunits
    exact ofRatio_of_below hx hm hden h (not_le.1 hbelow) hne

end Drift.Double
