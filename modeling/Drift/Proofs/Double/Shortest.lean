import Drift.Proofs.Double.Rounding

/-!
# Shortest decimals read back

* **`Double.ofDecimal_of_rounds`** — every decimal in the rounding interval of a double is read as
  that double.
* **`Double.rounds_shortest`** — the shortest decimal lies there: seventeen digits are enough.
-/

namespace Drift.Double

variable {x : Double} {digits : Nat} {exponent : Int}

/-! ## Reading decimals -/

theorem cast_ten_pow {z : Int} (h : ¬ z < 0) : ((Nat.pow 10 z.natAbs : Nat) : ℚ) = 10 ^ z := by
  rw [← Int.natAbs_of_nonneg (not_lt.1 h), zpow_natCast, Int.natAbs_natCast]
  exact Nat.cast_pow ..

theorem cast_ten_pow_neg {z : Int} (h : z < 0) :
    ((Nat.pow 10 z.natAbs : Nat) : ℚ) = (10 ^ z)⁻¹ := by
  rw [← zpow_neg, ← Int.ofNat_natAbs_of_nonpos h.le, zpow_natCast]
  exact Nat.cast_pow ..

theorem two_zpow_le_ten_zpow {a b k : Nat} {z w : Int} (h : (2 : ℚ) ^ a ≤ 10 ^ b) (hz : z ≤ a * k)
    (hw : b * k ≤ w) : (2 : ℚ) ^ z ≤ 10 ^ w := by
  calc (2 : ℚ) ^ z ≤ 2 ^ (a * k : Int) := zpow_le_zpow_right₀ one_le_two hz
    _ = (2 ^ a) ^ k := by rw [zpow_mul, zpow_natCast, zpow_natCast]
    _ ≤ (10 ^ b) ^ k := by gcongr
    _ = 10 ^ (b * k : Int) := by rw [zpow_mul, zpow_natCast, zpow_natCast]
    _ ≤ 10 ^ w := zpow_le_zpow_right₀ (by norm_num) hw

theorem two_zpow_le_ten_zpow_greatest : (2 : ℚ) ^ (1024 : Int) ≤ 10 ^ (310 : Int) :=
  two_zpow_le_ten_zpow (show (2 : ℚ) ^ 205 ≤ 10 ^ 62 by norm_num) (k := 5) (by norm_num)
    (by norm_num)

theorem two_zpow_le_ten_zpow_least : (2 : ℚ) ^ (1075 : Int) ≤ 10 ^ (331 : Int) :=
  two_zpow_le_ten_zpow (show (2 : ℚ) ^ 154 ≤ 10 ^ 47 by norm_num) (k := 7) (by norm_num)
    (by norm_num)

theorem toDigits_between (h : 0 < digits) :
    (10 : ℚ) ^ (((Nat.toDigits 10 digits).length : Int) - 1) ≤ digits ∧
      (digits : ℚ) < 10 ^ ((Nat.toDigits 10 digits).length : Int) := by
  generalize hlength : (Nat.toDigits 10 digits).length = length
  have hpos : 0 < length := hlength ▸ Nat.length_toDigits_pos
  have hlt : digits < 10 ^ length :=
    (Nat.length_toDigits_le_iff (by norm_num) hpos).1 hlength.le
  have hge : 10 ^ (length - 1) ≤ digits := by
    rcases Nat.eq_or_lt_of_le (Nat.one_le_iff_ne_zero.2 hpos.ne') with rfl | hone
    · exact h
    · refine not_lt.1 fun hlt' => ?_
      have hle := (Nat.length_toDigits_le_iff (by norm_num) (by omega)).2 hlt'
      omega
  constructor
  · have hcast : ((length : Int) - 1) = ((length - 1 : Nat) : Int) := by omega
    rw [hcast, zpow_natCast]
    exact_mod_cast hge
  · rw [zpow_natCast]
    exact_mod_cast hlt

theorem Rounds.range {q : ℚ} (h : Rounds x q) (hfinite : x.isFinite = true)
    (hm : 0 < x.magnitude.1) : (2 : ℚ) ^ (-1075 : Int) ≤ q ∧ q < 2 ^ (1024 : Int) := by
  have hx := x.parts hfinite
  generalize x.magnitude.1 = m at hx hm
  generalize x.magnitude.2 = e at hx
  have hm' : (1 : ℚ) ≤ m := by exact_mod_cast hm
  have hsmall : (m : ℚ) + 1 ≤ 2 ^ 53 := by exact_mod_cast hx.small
  have hunit : (0 : ℚ) < 2 ^ e := by positivity
  have hlow : (m - 1 / 2 : ℚ) * 2 ^ e ≤ q := by
    rcases h.bounds hx hm with ⟨-, hlow, -⟩ | ⟨-, -, hlow, -⟩
    · exact hlow
    · nlinarith
  constructor
  · calc (2 : ℚ) ^ (-1075 : Int) = 1 / 2 * 2 ^ (-1074 : Int) := by
          rw [show (-1075 : Int) = -1 + -1074 by norm_num, zpow_add₀ two_ne_zero, zpow_neg_one,
            one_div]
      _ ≤ (m - 1 / 2) * 2 ^ e :=
          mul_le_mul (by linarith) (zpow_le_zpow_right₀ one_le_two hx.least) (by positivity)
            (by linarith)
      _ ≤ q := hlow
  · calc q ≤ (m + 1 / 2) * 2 ^ e := h.le_upper hx hm
      _ < 2 ^ 53 * 2 ^ e := by gcongr; linarith
      _ ≤ 2 ^ 53 * 2 ^ (971 : Int) :=
          mul_le_mul_of_nonneg_left (zpow_le_zpow_right₀ one_le_two hx.greatest) (by positivity)
      _ = 2 ^ (1024 : Int) := by
          rw [← zpow_natCast, ← zpow_add₀ two_ne_zero]
          congr 1

theorem point_between (hdigits : 0 < digits)
    (hleast : (2 : ℚ) ^ (-1075 : Int) ≤ digits * 10 ^ exponent)
    (hgreatest : (digits * 10 ^ exponent : ℚ) < 2 ^ (1024 : Int)) :
    -330 ≤ (Nat.toDigits 10 digits).length + exponent ∧
      (Nat.toDigits 10 digits).length + exponent ≤ 310 := by
  obtain ⟨hlow, hhigh⟩ := toDigits_between hdigits
  have hpower : (0 : ℚ) < 10 ^ exponent := by positivity
  generalize ((Nat.toDigits 10 digits).length : Int) = length at hlow hhigh ⊢
  constructor
  · refine not_lt.1 fun hlt => absurd hleast (not_le.2 ?_)
    calc (digits * 10 ^ exponent : ℚ) < 10 ^ length * 10 ^ exponent := by gcongr
      _ = 10 ^ (length + exponent) := (zpow_add₀ (by norm_num) ..).symm
      _ ≤ 10 ^ (-331 : Int) := zpow_le_zpow_right₀ (by norm_num) (by omega)
      _ ≤ 2 ^ (-1075 : Int) := by
          rw [zpow_neg, zpow_neg]
          gcongr
          exact two_zpow_le_ten_zpow_least
  · refine not_lt.1 fun hlt => absurd hgreatest (not_lt.2 ?_)
    calc (2 : ℚ) ^ (1024 : Int) ≤ 10 ^ (310 : Int) := two_zpow_le_ten_zpow_greatest
      _ ≤ 10 ^ (length - 1 + exponent) := zpow_le_zpow_right₀ (by norm_num) (by omega)
      _ = 10 ^ (length - 1) * 10 ^ exponent := zpow_add₀ (by norm_num) ..
      _ ≤ digits * 10 ^ exponent := by gcongr

/-- A decimal that rounds to a double **is read as that double**. -/
theorem ofDecimal_of_rounds (hfinite : x.isFinite = true) (hm : 0 < x.magnitude.1)
    (h : Rounds x (digits * 10 ^ exponent)) : ofDecimal x.isNegative digits exponent = x := by
  obtain ⟨hleast, hgreatest⟩ := h.range hfinite hm
  have hdigits : 0 < digits := by
    rcases Nat.eq_zero_or_pos digits with rfl | hpos
    · have hpos : (0 : ℚ) < 2 ^ (-1075 : Int) := by positivity
      simp only [Nat.cast_zero, zero_mul] at hleast
      linarith
    · exact hpos
  obtain ⟨hmore, hless⟩ := point_between hdigits hleast hgreatest
  unfold ofDecimal
  rw [if_neg (by simpa using hdigits.ne')]
  simp only
  rw [if_neg (not_lt.2 hless), if_neg (not_lt.2 hmore)]
  split
  · next hz =>
    refine ofRatio_of_rounds hfinite hm (Nat.pow_pos (by norm_num)) ?_
    rwa [cast_ten_pow_neg hz, div_inv_eq_mul]
  · next hz =>
    refine ofRatio_of_rounds hfinite hm Nat.one_pos ?_
    rwa [Nat.cast_mul, cast_ten_pow hz, Nat.cast_one, div_one]

/-! ## Grids -/

variable {num den value step fuel count : Nat} {lead : Int}

/-- How many steps of `10 ^ exponent` there are in a fraction. -/
def stepsIn (num den : Nat) (exponent : Int) : Nat :=
  if exponent < 0 then num * Nat.pow 10 exponent.natAbs / den
  else num / (den * Nat.pow 10 exponent.natAbs)

theorem stepsIn_spec (num : Nat) (exponent : Int) (hden : 0 < den) :
    (stepsIn num den exponent * 10 ^ exponent : ℚ) ≤ num / den ∧
      (num : ℚ) / den < (stepsIn num den exponent + 1) * 10 ^ exponent := by
  have hfloor {num den : Nat} (hden : 0 < den) :
      ((num / den : Nat) : ℚ) ≤ num / den ∧ (num : ℚ) / den < (num / den : Nat) + 1 := by
    have hden' : (0 : ℚ) < den := by exact_mod_cast hden
    rw [le_div_iff₀ hden', div_lt_iff₀ hden']
    exact ⟨by exact_mod_cast Nat.div_mul_le_self num den,
      by exact_mod_cast (Nat.div_lt_iff_lt_mul hden).1 (Nat.lt_succ_self _)⟩
  have hpos : (0 : ℚ) < 10 ^ exponent := by positivity
  rw [← le_div_iff₀ hpos, ← div_lt_iff₀ hpos]
  unfold stepsIn
  split
  · next hz =>
    have hscale : ((num * Nat.pow 10 exponent.natAbs : Nat) : ℚ) / den
        = num / den / 10 ^ exponent := by
      rw [Nat.cast_mul, cast_ten_pow_neg hz]
      ring
    rw [← hscale]
    exact hfloor hden
  · next hz =>
    have hscale : (num : ℚ) / (den * Nat.pow 10 exponent.natAbs : Nat)
        = num / den / 10 ^ exponent := by
      rw [Nat.cast_mul, cast_ten_pow hz, div_div]
    rw [← hscale]
    exact hfloor (Nat.mul_pos hden (Nat.pow_pos (by norm_num)))

section

variable {inside : Nat → Bool}

theorem inside_of_onGrid (h : onGrid value step inside = some digits) : inside digits = true := by
  unfold onGrid at h
  simp only at h
  split at h
  · cases h
  · next hlow _ => cases h; exact hlow
  · next _ hhigh => cases h; exact hhigh
  · next hlow hhigh =>
    split at h
    · cases h; exact hlow
    · cases h; exact hhigh

theorem onGrid_ne_none (h : inside (value / step) = true ∨ inside (value / step + 1) = true) :
    onGrid value step inside ≠ none := by
  unfold onGrid
  simp only
  split
  · next hlow hhigh => simp [hlow, hhigh] at h
  · nofun
  · nofun
  · split <;> nofun

end

variable {inside : Nat → Int → Bool}

theorem inside_firstGrid (hfuel : 0 < fuel) {last : Int}
    (hlast : last = lead - ((count : Int) + fuel - 2))
    (h : inside (stepsIn num den last) last = true ∨
      inside (stepsIn num den last + 1) last = true) :
    inside (firstGrid num den inside lead fuel count).1
      (firstGrid num den inside lead fuel count).2 = true := by
  induction fuel generalizing count with
  | zero => omega
  | succ fuel ih =>
    unfold firstGrid
    simp only
    split
    · next hfound =>
      split at hfound <;> exact inside_of_onGrid hfound
    · next hnone =>
      rcases Nat.eq_zero_or_pos fuel with rfl | hpos
      · obtain rfl : last = lead - ((count : Int) - 1) := by push_cast at hlast; omega
        unfold stepsIn at h
        split at hnone
        · next hz =>
          rw [if_pos hz] at h
          exact absurd hnone (onGrid_ne_none h)
        · next hz =>
          rw [if_neg hz] at h
          exact absurd hnone (onGrid_ne_none h)
      · exact ih hpos (by push_cast at hlast ⊢; omega)

theorem ten_zpow_leadingDigit_le (hnum : 0 < num) (hden : 0 < den) :
    (10 : ℚ) ^ leadingDigit num den ≤ num / den := by
  have hnum' : (0 : ℚ) < num := by exact_mod_cast hnum
  have hden' : (0 : ℚ) < den := by exact_mod_cast hden
  unfold leadingDigit
  split
  · next hle =>
    have hquotient : ((num / den : Nat) : ℚ) ≤ num / den := by
      rw [le_div_iff₀ hden']
      exact_mod_cast Nat.div_mul_le_self num den
    exact (toDigits_between (Nat.div_pos hle hden)).1.trans hquotient
  · next hlt =>
    have hpos := Nat.div_pos (not_le.1 hlt).le hnum
    have hhigh := (toDigits_between hpos).2
    simp only
    generalize (Nat.toDigits 10 (den / num)).length = length at *
    split
    · next hle =>
      have hle' : (den : ℚ) ≤ 10 ^ (length - 1) * num := by exact_mod_cast hle
      rw [zpow_neg, zpow_natCast, inv_le_comm₀ (by positivity) (by positivity), inv_div,
        div_le_iff₀ hnum']
      exact hle'
    · have hlt' : den / num < 10 ^ length := by
        rw [zpow_natCast] at hhigh
        exact_mod_cast hhigh
      have hle : den ≤ 10 ^ length * num := ((Nat.div_lt_iff_lt_mul hnum).1 hlt').le
      have hle' : (den : ℚ) ≤ 10 ^ length * num := by exact_mod_cast hle
      rw [zpow_neg, zpow_natCast, inv_le_comm₀ (by positivity) (by positivity), inv_div,
        div_le_iff₀ hnum']
      exact hle'

/-! ## The shortest decimal -/

theorem Rounds.of_near {m : Nat} {e : Int} (hx : Parts x m e) (hpower : ¬ (m = 2 ^ 52 ∧ -1074 < e))
    (hm : 0 < m) {q : ℚ} (hlow : (m - 1 / 2 : ℚ) * 2 ^ e < q) (hhigh : q < (m + 1 / 2) * 2 ^ e) :
    Rounds x q := by
  have hquarter := quarter_eq hx
  have hends : (x.interval.1 * x.quarter : ℚ) = (m - 1 / 2) * 2 ^ e ∧
      (x.interval.2.1 * x.quarter : ℚ) = (m + 1 / 2) * 2 ^ e := by
    rw [hx.interval, hquarter, if_neg hpower, Nat.cast_sub (by omega)]
    push_cast
    exact ⟨by ring, by ring⟩
  rw [← hends.1] at hlow
  rw [← hends.2] at hhigh
  exact ⟨hlow.le, hhigh.le, fun _ => ⟨hlow, hhigh⟩⟩

theorem Rounds.of_above {m : Nat} {e : Int} (hx : Parts x m e) {q : ℚ}
    (hlow : (m * 2 ^ e : ℚ) < q) (hhigh : q < (m + 1 / 2) * 2 ^ e) : Rounds x q := by
  have hquarter := quarter_eq hx
  have hunit : (0 : ℚ) < 2 ^ e := by positivity
  have hends : (x.interval.1 * x.quarter : ℚ) ≤ m * 2 ^ e ∧
      (x.interval.2.1 * x.quarter : ℚ) = (m + 1 / 2) * 2 ^ e := by
    have hle : (((4 * m - if m = 2 ^ 52 ∧ -1074 < e then 1 else 2 : Nat)) : ℚ) ≤ 4 * m := by
      exact_mod_cast Nat.sub_le ..
    rw [hx.interval, hquarter]
    push_cast at hle ⊢
    exact ⟨by nlinarith, by ring⟩
  have hlow' := hends.1.trans_lt hlow
  rw [← hends.2] at hhigh
  exact ⟨hlow'.le, hhigh.le, fun _ => ⟨hlow', hhigh⟩⟩

/-- The decimal lies in the interval of a double whose quarter unit is `scale / den`. -/
def isInside (x : Double) (scale den digits : Nat) (exponent : Int) : Bool :=
  let value := if exponent < 0 then digits * den else digits * den * Nat.pow 10 exponent.natAbs
  let factor := if exponent < 0 then scale * Nat.pow 10 exponent.natAbs else scale
  if x.interval.2.2 then x.interval.1 * factor ≤ value && value ≤ x.interval.2.1 * factor
  else x.interval.1 * factor < value && value < x.interval.2.1 * factor

theorem exists_unit (digits : Nat) (exponent : Int) {scale : Nat} (hden : 0 < den)
    (hscale : (scale : ℚ) / den = x.quarter) :
    ∃ unit : ℚ, 0 < unit ∧
      ((if exponent < 0 then digits * den else digits * den * Nat.pow 10 exponent.natAbs : Nat) : ℚ)
        * unit = digits * 10 ^ exponent ∧
      ((if exponent < 0 then scale * Nat.pow 10 exponent.natAbs else scale : Nat) : ℚ) * unit
        = x.quarter := by
  have hden' : (0 : ℚ) < den := by exact_mod_cast hden
  have hpos : (0 : ℚ) < 10 ^ exponent := by positivity
  rw [← hscale]
  by_cases hz : exponent < 0
  · rw [if_pos hz, if_pos hz]
    refine ⟨10 ^ exponent / den, by positivity, ?_, ?_⟩
    · push_cast
      field_simp
    · rw [Nat.cast_mul, cast_ten_pow_neg hz]
      field_simp
  · rw [if_neg hz, if_neg hz]
    refine ⟨1 / den, by positivity, ?_, ?_⟩
    · rw [Nat.cast_mul, Nat.cast_mul, cast_ten_pow hz]
      field_simp
    · field_simp

theorem isInside_iff {scale : Nat} (hden : 0 < den) (hscale : (scale : ℚ) / den = x.quarter) :
    isInside x scale den digits exponent = true ↔ Rounds x (digits * 10 ^ exponent) := by
  obtain ⟨unit, hunit, hvalue', hfactor'⟩ := exists_unit digits exponent hden hscale
  unfold isInside
  simp only
  generalize (if exponent < 0 then digits * den
    else digits * den * Nat.pow 10 exponent.natAbs) = value at hvalue' ⊢
  generalize (if exponent < 0 then scale * Nat.pow 10 exponent.natAbs else scale) = factor
    at hfactor' ⊢
  have hle (n : Nat) : n * factor ≤ value ↔ (n * x.quarter : ℚ) ≤ digits * 10 ^ exponent := by
    rw [← hvalue', ← hfactor', ← mul_assoc, mul_le_mul_iff_left₀ hunit]
    exact_mod_cast Iff.rfl
  have hge (n : Nat) : value ≤ n * factor ↔ (digits * 10 ^ exponent : ℚ) ≤ n * x.quarter := by
    rw [← hvalue', ← hfactor', ← mul_assoc, mul_le_mul_iff_left₀ hunit]
    exact_mod_cast Iff.rfl
  cases hclosed : x.interval.2.2 with
  | true =>
    simp only [if_true, Bool.and_eq_true, decide_eq_true_eq, hle, hge]
    exact ⟨fun h => ⟨h.1, h.2, fun hopen => absurd (hclosed.symm.trans hopen) nofun⟩,
      fun h => ⟨h.lower, h.upper⟩⟩
  | false =>
    simp only [Bool.false_eq_true, if_false, Bool.and_eq_true, decide_eq_true_eq, ← not_le, hle, hge]
    simp only [not_le]
    exact ⟨fun h => ⟨h.1.le, h.2.le, fun _ => h⟩, fun h => h.inner hclosed⟩

theorem shortest_eq {m : Nat} {e : Int} (hx : Parts x m e) : ∃ scale den : Nat,
    0 < den ∧ (scale : ℚ) / den = x.quarter ∧
      x.shortest = firstGrid (4 * m * scale) den (isInside x scale den)
        (leadingDigit (4 * m * scale) den) 17 1 := by
  have hquarter : x.quarter = 2 ^ (e - 2) := by rw [quarter, hx.magnitude]
  obtain ⟨scale, den, hscale, hden, hratio⟩ : ∃ scale den : Nat,
      (if 2 ≤ e then (1 <<< (e - 2).toNat, 1) else (1, 1 <<< (2 - e).toNat)) = (scale, den) ∧
        0 < den ∧ (scale : ℚ) / den = x.quarter := by
    split
    · next hle =>
      refine ⟨_, _, rfl, Nat.one_pos, ?_⟩
      rw [hquarter, Nat.one_shiftLeft, Nat.cast_pow, Nat.cast_one, div_one, Nat.cast_ofNat,
        ← zpow_natCast, Int.toNat_of_nonneg (by omega)]
    · next hlt =>
      refine ⟨_, _, rfl, by rw [Nat.one_shiftLeft]; positivity, ?_⟩
      rw [hquarter, Nat.one_shiftLeft, Nat.cast_pow, Nat.cast_one, Nat.cast_ofNat, one_div,
        ← zpow_natCast, Int.toNat_of_nonneg (by omega), ← zpow_neg, neg_sub]
  refine ⟨scale, den, hden, hratio, ?_⟩
  unfold shortest
  rw [hx.magnitude]
  simp only [hscale]
  rfl

/-- Of the two decimals of seventeen digits next to a double, **one rounds to it**. -/
theorem rounds_seventeen {m : Nat} {e : Int} (hx : Parts x m e) (hm : 0 < m) (hden : 0 < den)
    (hnum : (num : ℚ) / den = m * 2 ^ e) (hlead : (10 : ℚ) ^ lead ≤ m * 2 ^ e) :
    Rounds x (stepsIn num den (lead - 16) * 10 ^ (lead - 16)) ∨
      Rounds x ((stepsIn num den (lead - 16) + 1) * 10 ^ (lead - 16)) := by
  obtain ⟨hlow, hhigh⟩ := stepsIn_spec num (lead - 16) hden
  rw [hnum] at hlow hhigh
  have hstep : (10 : ℚ) ^ (lead - 16) = 10 ^ lead / 10 ^ 16 := by
    rw [zpow_sub₀ (by norm_num)]
    norm_num
  have hunit : (0 : ℚ) < 2 ^ e := by positivity
  have hm' : (0 : ℚ) < m := by exact_mod_cast hm
  have hsmall : (m : ℚ) ≤ 2 ^ 53 := by exact_mod_cast hx.small.le
  generalize (stepsIn num den (lead - 16) : ℚ) = k at *
  generalize (10 : ℚ) ^ (lead - 16) = s at *
  have hs : s * 10 ^ 16 ≤ m * 2 ^ e := by
    rw [hstep]
    linarith
  by_cases hhalf : (m : ℚ) ≤ 2 ^ 52
  · -- A step is less than half a unit, so that the decimal above is near enough.
    refine .inr (.of_above hx hhigh ?_)
    nlinarith
  · -- A step is less than a unit, so that the nearer one of the two is.
    have hpower : ¬ (m = 2 ^ 52 ∧ -1074 < e) := by
      rintro ⟨rfl, -⟩
      exact hhalf (by norm_num)
    have hless : s < 2 ^ e := by nlinarith
    rcases lt_or_ge (m * 2 ^ e - k * s) (1 / 2 * 2 ^ e) with hnear | hfar
    · exact .inl (.of_near hx hpower hm (by linarith) (by linarith))
    · exact .inr (.of_near hx hpower hm (by linarith) (by linarith))

/-- The shortest decimal of a double **rounds to it**. -/
theorem rounds_shortest (hfinite : x.isFinite = true) (hm : 0 < x.magnitude.1) :
    Rounds x (x.shortest.1 * 10 ^ x.shortest.2) := by
  have hx := x.parts hfinite
  generalize x.magnitude.1 = m at hx hm
  generalize x.magnitude.2 = e at hx
  obtain ⟨scale, den, hden, hscale, hshortest⟩ := shortest_eq hx
  have hden' : (0 : ℚ) < den := by exact_mod_cast hden
  have hnum : ((4 * m * scale : Nat) : ℚ) / den = m * 2 ^ e := by
    have hquarter := hscale.trans (quarter_eq hx)
    rw [div_eq_iff hden'.ne'] at hquarter
    push_cast
    rw [hquarter]
    field_simp
  have hpos : 0 < 4 * m * scale := by
    refine Nat.pos_of_ne_zero fun hzero => ?_
    rw [hzero, Nat.cast_zero, zero_div] at hnum
    have hm' : (0 : ℚ) < m := by exact_mod_cast hm
    have hunit : (0 : ℚ) < m * 2 ^ e := by positivity
    linarith
  have hlead := ten_zpow_leadingDigit_le hpos hden
  rw [hnum] at hlead
  rw [← isInside_iff hden hscale, hshortest]
  have hlast : leadingDigit (4 * m * scale) den - 16
      = leadingDigit (4 * m * scale) den - (((1 : Nat) : Int) + (17 : Nat) - 2) := by norm_num
  refine inside_firstGrid (by norm_num) hlast ?_
  rw [isInside_iff hden hscale, isInside_iff hden hscale]
  push_cast
  exact rounds_seventeen hx hm hden hnum hlead

end Drift.Double
