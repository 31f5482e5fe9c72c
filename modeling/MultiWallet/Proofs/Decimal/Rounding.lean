import MultiWallet.Proofs.Decimal.Value

set_option autoImplicit false

namespace MultiWallet.Decimal

theorem divideHalfEven_near (n : Nat) {d : Nat} (positive : 0 < d) :
    2 * (d * divideHalfEven n d) ≤ 2 * n + d ∧ 2 * n ≤ 2 * (d * divideHalfEven n d) + d := by
  have whole := Nat.div_add_mod n d
  have rest := Nat.mod_lt n positive
  simp only [divideHalfEven]
  split
  next =>
    rw [Nat.mul_add]
    omega
  next => omega

theorem divideHalfEven_le_of_le {n d k : Nat} (positive : 0 < d) (le : n ≤ k * d) :
    divideHalfEven n d ≤ k := by
  have near := (divideHalfEven_near n positive).1
  by_contra more
  have : d * (k + 1) ≤ d * divideHalfEven n d := Nat.mul_le_mul_left d (by omega)
  rw [Nat.mul_add, Nat.mul_comm d k] at this
  omega

theorem lt_divideHalfEven_mul_ten {n d : Nat} (positive : 0 < d)
    (large : 2 ^ 96 ≤ divideHalfEven n d) : 2 ^ 96 < divideHalfEven n (d * 10) * 10 := by
  have before := (divideHalfEven_near n positive).1
  have after := (divideHalfEven_near n (d := d * 10) (by omega)).2
  have least : d * 2 ^ 96 ≤ d * divideHalfEven n d := Nat.mul_le_mul_left d large
  have most : d * (2 * 2 ^ 96) ≤ d * (20 * divideHalfEven n (d * 10) + 11) := by
    rw [Nat.mul_add, Nat.mul_left_comm d 20, Nat.mul_left_comm d 2]
    rw [Nat.mul_right_comm] at after
    omega
  have := Nat.le_of_mul_le_mul_left most positive
  omega

theorem fitFrom_le {negative : Bool} {n kept dropped c place : Nat} {hk : kept ≤ 28} {d : Decimal}
    (le : place ≤ kept) (short : c < 2 ^ 96) (bound : n ≤ c * 10 ^ (kept - place + dropped))
    (fits : fitFrom negative n kept dropped hk = some d) :
    d.coefficient * 10 ^ place ≤ c * 10 ^ d.scale := by
  induction kept generalizing dropped with
  | zero =>
    obtain rfl : place = 0 := by omega
    obtain ⟨-, digits, scale⟩ | ⟨-, k, -, none, -⟩ := fitFrom_cases fits
    · rw [digits, scale]
      simpa using divideHalfEven_le_of_le (by positivity) (by simpa using bound)
    · cases none
  | succ kept ih =>
    have quotient : divideHalfEven n (10 ^ dropped) ≤ c * 10 ^ (kept + 1 - place) :=
      divideHalfEven_le_of_le (by positivity) (by rwa [Nat.mul_assoc, ← Nat.pow_add])
    obtain ⟨-, digits, scale⟩ | ⟨large, k, _, same, fits⟩ := fitFrom_cases fits
    · rw [digits, scale]
      calc divideHalfEven n (10 ^ dropped) * 10 ^ place
          ≤ c * 10 ^ (kept + 1 - place) * 10 ^ place := Nat.mul_le_mul_right _ quotient
        _ = c * 10 ^ (kept + 1) := by rw [Nat.mul_assoc, ← Nat.pow_add, Nat.sub_add_cancel le]
    · cases same
      -- The decimal that is not passed would itself have been kept with all its digits.
      have lower : place ≤ kept := by
        by_contra last
        obtain rfl : place = kept + 1 := by omega
        rw [Nat.sub_self, Nat.pow_zero, Nat.mul_one] at quotient
        omega
      refine ih lower ?_ fits
      rwa [show kept - place + (dropped + 1) = kept + 1 - place + dropped by omega]

theorem fitFrom_large {negative : Bool} {n kept dropped : Nat} {hk : kept ≤ 28} {d : Decimal}
    (large : 2 ^ 96 ≤ divideHalfEven n (10 ^ dropped))
    (fits : fitFrom negative n kept (dropped + 1) hk = some d) :
    2 ^ 96 * 10 ^ d.scale < d.coefficient * 10 ^ (kept + 1) := by
  induction kept generalizing dropped with
  | zero =>
    obtain ⟨-, digits, scale⟩ | ⟨-, k, -, none, -⟩ := fitFrom_cases fits
    · rw [digits, scale, Nat.pow_succ 10 dropped]
      simpa using lt_divideHalfEven_mul_ten (by positivity) large
    · cases none
  | succ kept ih =>
    obtain ⟨-, digits, scale⟩ | ⟨again, k, _, same, fits⟩ := fitFrom_cases fits
    · have more := lt_divideHalfEven_mul_ten (by positivity) large
      rw [digits, scale, Nat.pow_succ 10 dropped, Nat.pow_succ 10 (kept + 1),
        Nat.mul_comm (10 ^ (kept + 1)), ← Nat.mul_assoc]
      exact Nat.mul_lt_mul_of_pos_right more (by positivity)
    · cases same
      refine (ih again fits).trans_le (Nat.mul_le_mul_left _ ?_)
      exact Nat.pow_le_pow_right (by decide) (by omega)

theorem toRat_nonneg {d : Decimal} (sign : d.negative = false) : 0 ≤ d.toRat := by
  rw [toRat, ratio, sign, if_neg Bool.false_ne_true]
  positivity

theorem toRat_nonpos {d : Decimal} (sign : d.negative = true) : d.toRat ≤ 0 := by
  rw [toRat, ratio, sign, if_pos rfl, neg_div, neg_nonpos]
  positivity

theorem trunc_neg_iff (d : Decimal) : d.trunc.toRat < 0 ↔ d.toRat ≤ -1 := by
  have power : (0 : ℚ) < 10 ^ d.scale := by positivity
  cases sign : d.negative with
  | false =>
    have whole : 0 ≤ d.trunc.toRat := toRat_nonneg sign
    have nonnegative : 0 ≤ d.toRat := toRat_nonneg sign
    exact iff_of_false whole.not_gt fun below => by linarith
  | true =>
    have one : 0 < d.coefficient / 10 ^ d.scale ↔ (1 : ℚ) ≤ d.coefficient / 10 ^ d.scale := by
      rw [Nat.div_pos_iff, one_le_div₀ power]
      norm_cast
      exact and_iff_right (by positivity)
    simpa [toRat, ratio, trunc, sign, neg_div] using one

theorem ceil_div (n : ℕ) {p : ℕ} (positive : 0 < p) :
    ⌈(n / p : ℚ)⌉₊ = if n % p = 0 then n / p else n / p + 1 := by
  refine eq_of_forall_ge_iff fun m => ?_
  have bound : ⌈(n / p : ℚ)⌉₊ ≤ m ↔ n ≤ m * p := by
    rw [Nat.ceil_le, div_le_iff₀ (by exact_mod_cast positive)]
    norm_cast
  rw [bound]
  split
  next whole =>
    obtain ⟨k, rfl⟩ := Nat.dvd_of_mod_eq_zero whole
    rw [Nat.mul_div_cancel_left _ positive, Nat.mul_comm p, Nat.mul_le_mul_right_iff positive]
  next fraction =>
    rw [Nat.succ_le_iff, Nat.div_lt_iff_lt_mul positive]
    refine ⟨fun le => lt_of_le_of_ne le ?_, le_of_lt⟩
    rintro rfl
    exact fraction (Nat.mul_mod_left m p)

theorem toNat?_ceil {d : Decimal} (nonnegative : d.negative = false) :
    d.ceil.toNat? = some ⌈d.toRat⌉₊ := by
  have whole := ceil_div d.coefficient (p := 10 ^ d.scale) (by positivity)
  push_cast at whole
  rw [toRat, ratio, nonnegative, if_neg Bool.false_ne_true, whole]
  unfold ceil
  by_cases fraction : d.coefficient % 10 ^ d.scale = 0
  · simp [fraction, toNat?, trunc, nonnegative]
  · simp [fraction, toNat?, ofNat, nonnegative]

theorem toRat_mul?_whole {a b d : Decimal} (ha : a.scale = 0) (hb : b.scale = 0)
    (product : a.mul? b = some d) : d.scale = 0 ∧ d.toRat = a.toRat * b.toRat := by
  obtain ⟨scale, coefficient⟩ := mul?_whole ha hb product
  refine ⟨scale, ?_⟩
  rw [toRat, mul?_sign product, ratio_sign, coefficient, scale, toRat, toRat, ratio_mul, ha, hb]

theorem normalize_scale_le (d : Decimal) : d.normalize.scale ≤ d.scale := by
  unfold normalize
  split
  next => exact Nat.zero_le _
  next => exact stripZeros_scale_le _ _

theorem abs_toRat (d : Decimal) : |d.toRat| = d.coefficient / 10 ^ d.scale := abs_ratio _ _ _

section Signed

variable {n : Int} {scale : Nat} {d : Decimal}

theorem ofSigned_nonneg (nonnegative : 0 ≤ n) (fits : ofSigned n scale = some d) :
    0 ≤ d.toRat := by
  refine toRat_nonneg ?_
  rw [fit_sign fits, decide_eq_false (by omega), Bool.false_and]

theorem ofSigned_nonpos (negative : n < 0) (fits : ofSigned n scale = some d) : d.toRat ≤ 0 := by
  have sign := fit_sign fits
  rw [decide_eq_true negative, Bool.true_and] at sign
  cases zero : d.coefficient != 0 with
  | true => exact toRat_nonpos (sign.trans zero)
  | false =>
    rw [toRat_eq_zero]
    simpa [isZero] using zero

theorem ofSigned_abs_le {e : Decimal} (small : scale ≤ 28) (le : e.scale ≤ scale)
    (bound : |(n : ℚ) / 10 ^ scale| ≤ |e.toRat|) (fits : ofSigned n scale = some d) :
    |d.toRat| ≤ |e.toRat| := by
  have powers (k : Nat) : (0 : ℚ) < 10 ^ k := by positivity
  rw [← ratio_natAbs, abs_ratio, abs_toRat, div_le_div_iff₀ (powers _) (powers _)] at bound
  have digits : n.natAbs ≤ e.coefficient * 10 ^ (scale - e.scale + 0) := by
    have bound : n.natAbs * 10 ^ e.scale ≤ e.coefficient * 10 ^ scale := by exact_mod_cast bound
    apply Nat.le_of_mul_le_mul_right _ (Nat.pow_pos (n := e.scale) (show 0 < 10 by decide))
    rwa [Nat.add_zero, Nat.mul_assoc, ← Nat.pow_add, Nat.sub_add_cancel le]
  rw [ofSigned, fit, dif_pos small] at fits
  have kept := fitFrom_le le e.coefficient_lt digits fits
  rw [abs_toRat, abs_toRat, div_le_div_iff₀ (powers _) (powers _)]
  exact_mod_cast kept

theorem ofSigned_exact_or_large (small : scale ≤ 28) (fits : ofSigned n scale = some d) :
    d.toRat = n / 10 ^ scale ∨ 2 ^ 96 < |d.toRat| * 10 ^ scale := by
  rw [ofSigned, fit, dif_pos small] at fits
  obtain ⟨sign, digits, place⟩ | ⟨large, k, _, rfl, cut⟩ := fitFrom_cases fits
  · refine .inl ?_
    rw [Nat.pow_zero, divideHalfEven_one] at digits
    rw [toRat, sign, ratio_sign, digits, place, ratio_natAbs]
  · refine .inr ?_
    have large := fitFrom_large large cut
    rw [abs_toRat, div_mul_eq_mul_div, lt_div_iff₀ (by positivity)]
    exact_mod_cast large

end Signed

theorem sub?_cases {a b d : Decimal} (left : a.sub? b = some d) :
    d.toRat = a.toRat - b.toRat ∨
      ∃ n : Int, (n : ℚ) / 10 ^ max a.scale b.scale = a.toRat - b.toRat ∧
        ofSigned n (max a.scale b.scale) = some d := by
  obtain ⟨e, found, exact⟩ | ⟨n, value, difference⟩ := sub?_split a b
  · cases left.symm.trans found
    exact .inl exact
  · exact .inr ⟨n, value, difference.symm.trans left⟩

theorem sub?_nonneg {a b d : Decimal} (le : b.toRat ≤ a.toRat) (left : a.sub? b = some d) :
    0 ≤ d.toRat := by
  obtain exact | ⟨n, value, fits⟩ := sub?_cases left
  · rw [exact]
    exact sub_nonneg.2 le
  · refine ofSigned_nonneg ?_ fits
    rw [← sub_nonneg, ← value, le_div_iff₀ (by positivity), zero_mul] at le
    exact_mod_cast le

theorem sub?_le {a b d : Decimal} (nonnegative : 0 ≤ b.toRat) (left : a.sub? b = some d) :
    d.toRat ≤ max a.toRat 0 := by
  obtain exact | ⟨n, value, fits⟩ := sub?_cases left
  · rw [exact]
    exact (sub_le_self _ nonnegative).trans (le_max_left _ _)
  · rcases lt_or_ge n 0 with negative | positive
    · exact (ofSigned_nonpos negative fits).trans (le_max_right _ _)
    · have least : 0 ≤ (n : ℚ) / 10 ^ max a.scale b.scale := by positivity
      have most : (n : ℚ) / 10 ^ max a.scale b.scale ≤ a.toRat := by
        rw [value]
        exact sub_le_self _ nonnegative
      have bound : |(n : ℚ) / 10 ^ max a.scale b.scale| ≤ |a.toRat| := by
        rwa [abs_of_nonneg least, abs_of_nonneg (least.trans most)]
      calc d.toRat ≤ |d.toRat| := le_abs_self _
        _ ≤ |a.toRat| :=
          ofSigned_abs_le (max_le a.scale_le b.scale_le) (le_max_left _ _) bound fits
        _ = a.toRat := abs_of_nonneg (least.trans most)
        _ ≤ max a.toRat 0 := le_max_left _ _

theorem sub?_exact_or_large {a b d : Decimal} {k : Nat} (ha : a.scale ≤ k) (hb : b.scale ≤ k)
    (left : a.sub? b = some d) : d.toRat = a.toRat - b.toRat ∨ 2 ^ 96 < |d.toRat| * 10 ^ k := by
  obtain exact | ⟨n, value, fits⟩ := sub?_cases left
  · exact .inl exact
  · rw [← value]
    refine (ofSigned_exact_or_large (max_le a.scale_le b.scale_le) fits).imp_right ?_
    intro large
    refine large.trans_le (mul_le_mul_of_nonneg_left ?_ (abs_nonneg _))
    exact pow_le_pow_right₀ (by norm_num) (max_le ha hb)

end MultiWallet.Decimal
