import MultiWallet.Proofs.Decimal.Rounding

set_option autoImplicit false

namespace MultiWallet.Decimal

theorem abs_toRat_lt (d : Decimal) : |d.toRat| < 2 ^ 96 := by
  rw [abs_toRat]
  refine (div_le_self (by positivity) (one_le_pow₀ (by norm_num))).trans_lt ?_
  exact_mod_cast d.coefficient_lt

theorem exists_shifted {a : Decimal} {k : Nat} (inRange : |a.toRat| * 10 ^ k < 2 ^ 96) :
    ∃ e : Decimal, e.toRat = a.toRat * 10 ^ k := by
  have powers (n : Nat) : (0 : ℚ) < 10 ^ n := by positivity
  have places : (10 : ℚ) ^ (k - a.scale) * 10 ^ a.scale = 10 ^ (a.scale - k) * 10 ^ k := by
    rw [← pow_add, ← pow_add]
    congr 1
    omega
  have short : a.coefficient * 10 ^ (k - a.scale) < 2 ^ 96 := by
    rcases Nat.le_total k a.scale with le | le
    · rw [Nat.sub_eq_zero_of_le le, Nat.pow_zero, Nat.mul_one]
      exact a.coefficient_lt
    · rw [abs_toRat, div_mul_eq_mul_div, div_lt_iff₀ (powers _), ← Nat.sub_add_cancel le, pow_add,
        ← mul_assoc] at inRange
      exact_mod_cast lt_of_mul_lt_mul_right inRange (powers a.scale).le
  refine ⟨{ negative := a.negative, coefficient := a.coefficient * 10 ^ (k - a.scale)
            scale := a.scale - k, coefficient_lt := short
            scale_le := (Nat.sub_le _ _).trans a.scale_le }, ?_⟩
  have moved : (a.coefficient * 10 ^ (k - a.scale) : ℚ) / 10 ^ (a.scale - k) =
      a.coefficient / 10 ^ a.scale * 10 ^ k := by
    rw [div_mul_eq_mul_div, div_eq_div_iff (powers _).ne' (powers _).ne', mul_assoc, places]
    ring
  cases sign : a.negative <;> simp [toRat, ratio, sign, neg_div, moved]

theorem mul?_powerOfTen_eq_none_iff {a : Decimal} {k : Fin 29} :
    a.mul? (powerOfTen k) = none ↔ 2 ^ 96 ≤ |a.toRat| * 10 ^ k.val := by
  constructor
  · intro refused
    by_contra inRange
    obtain ⟨e, shifted⟩ := exists_shifted (not_le.1 inRange)
    rw [← toRat_powerOfTen] at shifted
    obtain ⟨d, product, -⟩ := mul?_exact shifted
    rw [product] at refused
    cases refused
  · intro large
    cases product : a.mul? (powerOfTen k) with
    | none => rfl
    | some d =>
      have inRange := abs_toRat_lt d
      rw [toRat_mul?_powerOfTen product, abs_mul, abs_of_pos (by positivity : (0 : ℚ) < 10 ^ k.val)]
        at inRange
      exact absurd large inRange.not_ge

theorem mul?_whole_eq_none_iff {a b : Decimal} (ha : a.scale = 0) (hb : b.scale = 0) :
    a.mul? b = none ↔ 2 ^ 96 ≤ a.coefficient * b.coefficient := by
  constructor
  · intro refused
    by_contra inRange
    have whole : toRat { negative := a.negative != b.negative, scale := 0
                         coefficient := a.coefficient * b.coefficient
                         coefficient_lt := not_le.1 inRange } = a.toRat * b.toRat := by
      rw [toRat, toRat, toRat, ratio_mul, ha, hb]
    obtain ⟨d, product, -⟩ := mul?_exact whole
    rw [product] at refused
    cases refused
  · intro large
    cases product : a.mul? b with
    | none => rfl
    | some d =>
      obtain ⟨-, coefficient⟩ := mul?_whole ha hb product
      have := d.coefficient_lt
      omega

/-- A number this far from zero is rounded to one that has no value: the largest coefficient is odd,
so that what lies in the middle behind it goes up. -/
def overflowThreshold : ℚ := 2 ^ 96 - 1 / 2

theorem le_divideHalfEven_iff {n d : Nat} (positive : 0 < d) :
    2 ^ 96 ≤ divideHalfEven n d ↔ (2 ^ 97 - 1) * d ≤ 2 * n := by
  have near := (divideHalfEven_near n positive).1
  have whole := Nat.div_add_mod n d
  have rest := Nat.mod_lt n positive
  constructor
  · intro large
    have : d * 2 ^ 96 ≤ d * divideHalfEven n d := Nat.mul_le_mul_left d large
    omega
  · intro large
    rcases Nat.lt_trichotomy (n / d) (2 ^ 96 - 1) with less | last | more
    · have : d * (n / d) ≤ d * (2 ^ 96 - 2) := Nat.mul_le_mul_left d (by omega)
      omega
    · rw [last] at whole
      have up : d < 2 * (n % d) ∨ 2 * (n % d) = d ∧ n / d % 2 = 1 := by omega
      simp only [divideHalfEven, if_pos up]
      omega
    · simp only [divideHalfEven]
      split <;> omega

theorem fitFrom_eq_none_iff {negative : Bool} {n kept dropped : Nat} {hk : kept ≤ 28} :
    fitFrom negative n kept dropped hk = none ↔
      (2 ^ 97 - 1) * 10 ^ (kept + dropped) ≤ 2 * n := by
  induction kept generalizing dropped with
  | zero =>
    rw [Nat.zero_add, ← le_divideHalfEven_iff (by positivity)]
    unfold fitFrom
    simp
  | succ kept ih =>
    unfold fitFrom
    by_cases short : divideHalfEven n (10 ^ dropped) < 2 ^ 96
    next =>
      -- What fits with all its digits fits with fewer.
      have fewer : 10 ^ dropped ≤ 10 ^ (kept + 1 + dropped) :=
        Nat.pow_le_pow_right (by decide) (by omega)
      have all := mt (le_divideHalfEven_iff (by positivity)).2 short.not_ge
      simp only [dif_pos short]
      exact iff_of_false (by simp) (by omega)
    next =>
      simp only [dif_neg short]
      rw [ih, Nat.add_right_comm, Nat.add_assoc]

theorem fit_eq_none_iff {negative : Bool} {n scale : Nat} :
    fit negative n scale = none ↔ overflowThreshold ≤ n / 10 ^ scale := by
  have value : overflowThreshold ≤ (n / 10 ^ scale : ℚ) ↔ (2 ^ 97 - 1) * 10 ^ scale ≤ 2 * n := by
    rw [le_div_iff₀ (by positivity), overflowThreshold, ← Nat.cast_le (α := ℚ)]
    push_cast
    constructor <;> intro <;> linarith
  rw [value]
  unfold fit
  split
  next => exact fitFrom_eq_none_iff
  next large => rw [fitFrom_eq_none_iff, Nat.add_sub_cancel' (by omega)]

theorem abs_toRat_lt_overflowThreshold (d : Decimal) : |d.toRat| < overflowThreshold := by
  have most : (d.coefficient : ℚ) + 1 ≤ 2 ^ 96 := by exact_mod_cast d.coefficient_lt
  rw [abs_toRat, overflowThreshold]
  refine (div_le_self (by positivity) (one_le_pow₀ (by norm_num))).trans_lt ?_
  linarith

theorem sub?_eq_none_iff {a b : Decimal} :
    a.sub? b = none ↔ overflowThreshold ≤ |a.toRat - b.toRat| := by
  obtain ⟨d, found, exact⟩ | ⟨n, value, difference⟩ := sub?_split a b
  · rw [found, ← exact]
    exact iff_of_false (by simp) (abs_toRat_lt_overflowThreshold d).not_ge
  · rw [difference, ofSigned, fit_eq_none_iff, ← value, ← ratio_natAbs, abs_ratio]

theorem add?_eq_none_iff {a b : Decimal} :
    a.add? b = none ↔ overflowThreshold ≤ |a.toRat + b.toRat| := by
  rw [← Option.map_eq_none_iff (f := toRat), add?_toRat, Option.map_eq_none_iff, sub?_eq_none_iff,
    toRat_neg, sub_neg_eq_add]

end MultiWallet.Decimal
