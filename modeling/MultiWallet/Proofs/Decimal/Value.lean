import Mathlib
import MultiWallet.Decimal.Basic

set_option autoImplicit false

namespace MultiWallet.Decimal

def ratio (negative : Bool) (n scale : Nat) : ℚ :=
  (if negative then -(n : ℚ) else n) / 10 ^ scale

def toRat (d : Decimal) : ℚ := ratio d.negative d.coefficient d.scale

@[simp] theorem ratio_zero (negative : Bool) (scale : Nat) : ratio negative 0 scale = 0 := by
  cases negative <;> simp [ratio]

@[simp] theorem ratio_sign (negative : Bool) (n scale : Nat) :
    ratio (negative && n != 0) n scale = ratio negative n scale := by
  rcases Nat.eq_zero_or_pos n with rfl | positive
  · simp
  · rw [bne_iff_ne.2 positive.ne.symm, Bool.and_true]

theorem ratio_shift (negative : Bool) (n scale k : Nat) :
    ratio negative (n * 10 ^ k) (scale + k) = ratio negative n scale := by
  have nonzero : (10 : ℚ) ^ k ≠ 0 := by positivity
  cases negative <;> simp only [ratio, if_true, Bool.false_eq_true, if_false, pow_add] <;>
    push_cast <;> field_simp

theorem ratio_mul (a b : Bool) (m n scale place : Nat) :
    ratio a m scale * ratio b n place = ratio (a != b) (m * n) (scale + place) := by
  have (k : Nat) : (10 : ℚ) ^ k ≠ 0 := by positivity
  cases a <;> cases b <;> simp [ratio, pow_add] <;> field_simp

theorem abs_ratio (negative : Bool) (n scale : Nat) : |ratio negative n scale| = n / 10 ^ scale := by
  cases negative <;> simp [ratio, abs_div]

theorem toRat_eq_signed (d : Decimal) : d.toRat = (d.signed : ℚ) / 10 ^ d.scale := by
  unfold toRat ratio signed
  split <;> simp

@[simp] theorem toRat_zero : zero.toRat = 0 := by simp [toRat, zero]

@[simp] theorem toRat_ofNat (n : Nat) (h : n < 2 ^ 96) : (ofNat n h).toRat = n := by
  simp [toRat, ratio, ofNat]

@[simp] theorem toRat_ofUInt64 (n : UInt64) : (ofUInt64 n).toRat = n.toNat := toRat_ofNat _ _

@[simp] theorem toRat_powerOfTen (k : Fin 29) : (powerOfTen k).toRat = 10 ^ k.val := by
  simp [powerOfTen]

theorem toRat_eq_zero {d : Decimal} (zero : d.isZero = true) : d.toRat = 0 := by
  simp only [isZero, beq_iff_eq] at zero
  simp [toRat, zero]

theorem toRat_neg (d : Decimal) : d.neg.toRat = -d.toRat := by
  cases negative : d.negative <;> simp [toRat, neg, negative, ratio, neg_div]

theorem toRat_normalize (d : Decimal) : d.normalize.toRat = d.toRat := by
  unfold normalize
  split
  next zero => rw [toRat_zero, toRat_eq_zero zero]
  next =>
    have value := stripZeros_value d.scale d.coefficient
    have le := stripZeros_scale_le d.scale d.coefficient
    calc ratio d.negative (stripZeros d.scale d.coefficient).2 (stripZeros d.scale d.coefficient).1
        = ratio d.negative
            ((stripZeros d.scale d.coefficient).2 *
              10 ^ (d.scale - (stripZeros d.scale d.coefficient).1))
            ((stripZeros d.scale d.coefficient).1 +
              (d.scale - (stripZeros d.scale d.coefficient).1)) := (ratio_shift _ _ _ _).symm
      _ = ratio d.negative d.coefficient d.scale := by rw [value, Nat.add_sub_cancel' le]

theorem toRat_shiftRight {d : Decimal} {k : Nat} (fits : d.scale + k ≤ 28) :
    (d.shiftRight k).toRat = d.toRat / 10 ^ k := by
  rw [shiftRight, dif_pos fits]
  simp only [toRat, ratio, pow_add, div_div]

theorem divideHalfEven_mul (n : Nat) {d : Nat} (positive : 0 < d) :
    divideHalfEven (n * d) d = n := by
  simp [divideHalfEven, Nat.mul_div_cancel _ positive, positive.ne]

theorem fitFrom_cases {negative : Bool} {n kept dropped : Nat} {hk : kept ≤ 28} {d : Decimal}
    (fits : fitFrom negative n kept dropped hk = some d) :
    (d.negative = (negative && d.coefficient != 0) ∧
        d.coefficient = divideHalfEven n (10 ^ dropped) ∧ d.scale = kept) ∨
      2 ^ 96 ≤ divideHalfEven n (10 ^ dropped) ∧
        ∃ (k : Nat) (hk : k ≤ 28),
          kept = k + 1 ∧ fitFrom negative n k (dropped + 1) hk = some d := by
  unfold fitFrom at fits
  simp only at fits
  split at fits
  next =>
    cases fits
    exact .inl ⟨rfl, rfl, rfl⟩
  next large =>
    cases kept with
    | zero => cases fits
    | succ k => exact .inr ⟨Nat.le_of_not_lt large, k, _, rfl, fits⟩

theorem fitFrom_sign {negative : Bool} {n kept dropped : Nat} {hk : kept ≤ 28} {d : Decimal}
    (fits : fitFrom negative n kept dropped hk = some d) :
    d.negative = (negative && d.coefficient != 0) := by
  induction kept generalizing dropped with
  | zero =>
    obtain ⟨sign, -⟩ | ⟨-, k, -, none, -⟩ := fitFrom_cases fits
    · exact sign
    · cases none
  | succ kept ih =>
    obtain ⟨sign, -⟩ | ⟨-, k, _, same, fits⟩ := fitFrom_cases fits
    · exact sign
    · cases same
      exact ih fits

theorem fit_sign {negative : Bool} {n scale : Nat} {d : Decimal}
    (fits : fit negative n scale = some d) : d.negative = (negative && d.coefficient != 0) := by
  unfold fit at fits
  split at fits <;> exact fitFrom_sign fits

theorem mul?_sign {a b d : Decimal} (product : a.mul? b = some d) :
    d.negative = ((a.negative != b.negative) && d.coefficient != 0) := by
  unfold mul? at product
  split at product
  · cases product
    simp [zero]
  · exact fit_sign product

theorem mul?_nonnegative {a b d : Decimal} (ha : 0 ≤ a.signed) (hb : b.negative = false)
    (product : a.mul? b = some d) : d.negative = false := by
  cases sign : a.negative with
  | false =>
    rw [mul?_sign product, sign, hb]
    rfl
  | true =>
    have zero : a.coefficient = 0 := by
      simp only [signed, sign, if_true] at ha
      omega
    rw [mul?, isZero, zero] at product
    cases product
    rfl

theorem fitFrom_exact (negative : Bool) {n kept dropped c place : Nat} (hk : kept ≤ 28)
    (le : place ≤ kept) (fits : c < 2 ^ 96) (whole : n = c * 10 ^ (kept - place + dropped)) :
    ∃ d, fitFrom negative n kept dropped hk = some d ∧
      d.toRat = ratio negative n (kept + dropped) := by
  induction kept generalizing dropped with
  | zero =>
    have : divideHalfEven n (10 ^ dropped) = c := by
      rw [whole, Nat.zero_sub, Nat.zero_add, divideHalfEven_mul _ (by positivity)]
    unfold fitFrom
    simp only [this]
    rw [dif_pos fits]
    refine ⟨_, rfl, ?_⟩
    obtain rfl : place = 0 := by omega
    simp only [toRat, ratio_sign, whole, Nat.sub_zero, Nat.zero_add]
    simpa using (ratio_shift negative c 0 dropped).symm
  | succ kept ih =>
    have shifted : n = c * 10 ^ (kept + 1 - place) * 10 ^ dropped := by
      rw [whole, pow_add, Nat.mul_assoc]
    have quotient : divideHalfEven n (10 ^ dropped) = c * 10 ^ (kept + 1 - place) := by
      rw [shifted, divideHalfEven_mul _ (by positivity)]
    unfold fitFrom
    simp only [quotient]
    split
    next =>
      refine ⟨_, rfl, ?_⟩
      simp only [toRat, ratio_sign, shifted, ratio_shift]
    next large =>
      have lt : place ≤ kept := by
        by_contra last
        obtain rfl : place = kept + 1 := by omega
        rw [Nat.sub_self, Nat.pow_zero, Nat.mul_one] at large
        exact large fits
      have zeros : kept - place + (dropped + 1) = kept + 1 - place + dropped := by omega
      have digits : kept + (dropped + 1) = kept + 1 + dropped := by omega
      rw [← digits]
      exact ih (by omega) lt (by rw [zeros, whole])

theorem coefficient_mul_of_toRat_eq {e : Decimal} {negative : Bool} {n scale : Nat}
    (same : e.toRat = ratio negative n scale) : e.coefficient * 10 ^ scale = n * 10 ^ e.scale := by
  have size := congrArg abs same
  have (k : Nat) : (10 : ℚ) ^ k ≠ 0 := by positivity
  rw [toRat, abs_ratio, abs_ratio, div_eq_div_iff (this _) (this _)] at size
  exact_mod_cast size

theorem exists_coefficient {e : Decimal} {negative : Bool} {n scale : Nat}
    (same : e.toRat = ratio negative n scale) :
    ∃ c place, place ≤ scale ∧ place ≤ 28 ∧ c < 2 ^ 96 ∧ n = c * 10 ^ (scale - place) := by
  have size := coefficient_mul_of_toRat_eq same
  rcases Nat.le_total e.scale scale with le | le
  · refine ⟨e.coefficient, e.scale, le, e.scale_le, e.coefficient_lt, ?_⟩
    apply Nat.eq_of_mul_eq_mul_right (Nat.pow_pos (n := e.scale) (show 0 < 10 by decide))
    rw [← size, Nat.mul_assoc, ← Nat.pow_add, Nat.sub_add_cancel le]
  · refine ⟨n, scale, le_rfl, le.trans e.scale_le, ?_, by simp⟩
    have larger : n * 10 ^ scale ≤ e.coefficient * 10 ^ scale := by
      rw [size]
      exact Nat.mul_le_mul_left _ (Nat.pow_le_pow_right (by decide) le)
    exact (Nat.le_of_mul_le_mul_right larger (Nat.pow_pos (by decide))).trans_lt e.coefficient_lt

theorem fit_exact {e : Decimal} {negative : Bool} {n scale : Nat}
    (same : e.toRat = ratio negative n scale) :
    ∃ d, fit negative n scale = some d ∧ d.toRat = ratio negative n scale := by
  obtain ⟨c, place, le, most, fits, whole⟩ := exists_coefficient same
  unfold fit
  split
  next small => exact fitFrom_exact negative small le fits (by simpa using whole)
  next large =>
    have kept : 28 - place + (scale - 28) = scale - place := by omega
    have digits : 28 + (scale - 28) = scale := by omega
    rw [← kept] at whole
    have fitted := fitFrom_exact negative (le_refl 28) most fits whole
    rwa [digits] at fitted

theorem mul?_exact {a b e : Decimal} (same : e.toRat = a.toRat * b.toRat) :
    ∃ d, a.mul? b = some d ∧ d.toRat = a.toRat * b.toRat := by
  unfold mul?
  split
  next zero =>
    refine ⟨.zero, rfl, ?_⟩
    rcases Bool.or_eq_true _ _ ▸ zero with zero | zero <;> simp [toRat_eq_zero zero]
  next =>
    have product : a.toRat * b.toRat = ratio (a.negative != b.negative)
        (a.coefficient * b.coefficient) (a.scale + b.scale) := ratio_mul _ _ _ _ _ _
    rw [product] at same ⊢
    exact fit_exact same

theorem ratio_natAbs (n : Int) (scale : Nat) :
    ratio (decide (n < 0)) n.natAbs scale = n / 10 ^ scale := by
  unfold ratio
  congr 1
  split
  next negative =>
    have : (n.natAbs : Int) = -n := by
      simp only [decide_eq_true_eq] at negative
      omega
    rw [← Int.cast_natCast, this, Int.cast_neg, neg_neg]
  next nonnegative =>
    have : (n.natAbs : Int) = n := by
      simp only [decide_eq_true_eq] at nonnegative
      omega
    rw [← Int.cast_natCast, this]

theorem ofSigned_exact {e : Decimal} {n : Int} {scale : Nat} (same : e.toRat = n / 10 ^ scale) :
    ∃ d, ofSigned n scale = some d ∧ d.toRat = n / 10 ^ scale := by
  rw [← ratio_natAbs] at same ⊢
  exact fit_exact same

theorem signedAt_div {d : Decimal} {scale : Nat} (le : d.scale ≤ scale) :
    (d.signedAt scale : ℚ) / 10 ^ scale = d.toRat := by
  have (k : Nat) : (10 : ℚ) ^ k ≠ 0 := by positivity
  obtain ⟨k, rfl⟩ := Nat.exists_eq_add_of_le le
  rw [toRat_eq_signed, signedAt, Nat.add_sub_cancel_left, pow_add]
  push_cast
  field_simp

theorem sub?_split (a b : Decimal) :
    (∃ d, a.sub? b = some d ∧ d.toRat = a.toRat - b.toRat) ∨
      ∃ n : Int, (n : ℚ) / 10 ^ max a.scale b.scale = a.toRat - b.toRat ∧
        a.sub? b = ofSigned n (max a.scale b.scale) := by
  unfold sub?
  split
  next zero =>
    refine .inl ⟨_, rfl, ?_⟩
    rw [toRat_eq_zero zero, zero_sub]
    split
    next zero => simp [toRat_eq_zero zero]
    next => exact toRat_neg b
  next =>
    split
    next zero => exact .inl ⟨a, rfl, by rw [toRat_eq_zero zero, sub_zero]⟩
    next =>
      refine .inr ⟨_, ?_, rfl⟩
      rw [Int.cast_sub, sub_div, signedAt_div (le_max_left _ _), signedAt_div (le_max_right _ _)]

theorem sub?_exact {a b e : Decimal} (same : e.toRat = a.toRat - b.toRat) :
    ∃ d, a.sub? b = some d ∧ d.toRat = a.toRat - b.toRat := by
  obtain exact | ⟨n, value, difference⟩ := sub?_split a b
  · exact exact
  · rw [difference, ← value]
    exact ofSigned_exact (same.trans value.symm)

theorem signed_neg (d : Decimal) : d.neg.signed = -d.signed := by
  unfold signed neg
  cases d.negative <;> simp

theorem add?_toRat (a b : Decimal) : (a.add? b).map toRat = (a.sub? b.neg).map toRat := by
  have zeros : b.neg.isZero = b.isZero := rfl
  have value : b.neg.neg.toRat = b.toRat := by rw [toRat_neg, toRat_neg, neg_neg]
  unfold add? sub?
  rw [zeros]
  split
  next =>
    split
    next zero => simp [toRat_neg, toRat_eq_zero zero]
    next => simp [value]
  next =>
    split
    next => rfl
    next =>
      have opposite (scale : Nat) : b.neg.signedAt scale = -b.signedAt scale := by
        rw [signedAt, signedAt, signed_neg, Int.neg_mul]
        rfl
      simp only [opposite, sub_neg_eq_add]
      rfl

theorem add?_exact {a b e : Decimal} (same : e.toRat = a.toRat + b.toRat) :
    ∃ d, a.add? b = some d ∧ d.toRat = a.toRat + b.toRat := by
  have taken : a.toRat - b.neg.toRat = a.toRat + b.toRat := by rw [toRat_neg, sub_neg_eq_add]
  rw [← taken] at same ⊢
  obtain ⟨d, difference, value⟩ := sub?_exact same
  have sum : (a.add? b).map toRat = some d.toRat := by rw [add?_toRat, difference, Option.map_some]
  obtain ⟨e, added, equal⟩ := Option.map_eq_some_iff.1 sum
  exact ⟨e, added, equal.trans value⟩

theorem mul?_whole {a b d : Decimal} (ha : a.scale = 0) (hb : b.scale = 0)
    (product : a.mul? b = some d) :
    d.scale = 0 ∧ d.coefficient = a.coefficient * b.coefficient := by
  unfold mul? at product
  split at product
  next zero =>
    cases product
    refine ⟨rfl, ?_⟩
    rcases Bool.or_eq_true _ _ ▸ zero with zero | zero <;>
      simp_all [isZero, Decimal.zero]
  next =>
    rw [ha, hb] at product
    unfold fit fitFrom at product
    simp only [Nat.add_zero, Nat.zero_le, dif_pos, Nat.pow_zero, divideHalfEven_one] at product
    split at product
    next =>
      cases product
      exact ⟨rfl, rfl⟩
    next => cases product

theorem fitFrom_zeros {negative : Bool} {n kept dropped c k : Nat} {hk : kept ≤ 28} {d : Decimal}
    (zeros : n = c * 10 ^ k) (le : dropped ≤ k) (short : c < 2 ^ 96)
    (fits : fitFrom negative n kept dropped hk = some d) :
    d.toRat = ratio negative n (kept + dropped) := by
  have shifted (dropped : Nat) (le : dropped ≤ k) : n = c * 10 ^ (k - dropped) * 10 ^ dropped := by
    rw [zeros, Nat.mul_assoc, ← Nat.pow_add, Nat.sub_add_cancel le]
  have quotient (dropped : Nat) (le : dropped ≤ k) :
      divideHalfEven n (10 ^ dropped) = c * 10 ^ (k - dropped) := by
    rw [shifted dropped le, divideHalfEven_mul _ (by positivity)]
  have whole {kept dropped : Nat} (le : dropped ≤ k)
      (sign : d.negative = (negative && d.coefficient != 0))
      (digits : d.coefficient = divideHalfEven n (10 ^ dropped)) (scale : d.scale = kept) :
      d.toRat = ratio negative n (kept + dropped) := by
    rw [toRat, sign, ratio_sign, digits, scale, quotient dropped le, shifted dropped le,
      ratio_shift]
  induction kept generalizing dropped with
  | zero =>
    obtain ⟨sign, digits, scale⟩ | ⟨-, j, -, none, -⟩ := fitFrom_cases fits
    · exact whole le sign digits scale
    · cases none
  | succ kept ih =>
    obtain ⟨sign, digits, scale⟩ | ⟨large, j, _, same, fits⟩ := fitFrom_cases fits
    · exact whole le sign digits scale
    · cases same
      -- Without zeros left, the short number itself would have been kept.
      have more : dropped + 1 ≤ k := by
        by_contra last
        obtain rfl : dropped = k := by omega
        rw [quotient dropped le, Nat.sub_self, Nat.pow_zero, Nat.mul_one] at large
        omega
      rw [ih more fits, Nat.add_right_comm, Nat.add_assoc]

theorem toRat_mul?_powerOfTen {a d : Decimal} {k : Fin 29}
    (product : a.mul? (powerOfTen k) = some d) : d.toRat = a.toRat * 10 ^ k.val := by
  unfold mul? at product
  split at product
  next zero =>
    cases product
    rw [← toRat_powerOfTen]
    rcases Bool.or_eq_true _ _ ▸ zero with zero | zero <;> simp [toRat_eq_zero zero]
  next =>
    have scale : (powerOfTen k).scale = 0 := rfl
    have coefficient : (powerOfTen k).coefficient = 10 ^ k.val := rfl
    unfold fit at product
    rw [scale, coefficient, Nat.add_zero, dif_pos a.scale_le] at product
    rw [fitFrom_zeros rfl (Nat.zero_le _) a.coefficient_lt product, ← toRat_powerOfTen]
    exact (ratio_mul _ _ _ _ _ _).symm

theorem toNat?_eq_floor {d : Decimal} (nonnegative : d.negative = false) :
    d.toNat? = some ⌊d.toRat⌋₊ := by
  have floor := Nat.floor_div_eq_div (K := ℚ) d.coefficient (10 ^ d.scale)
  push_cast at floor
  simp [toNat?, toRat, ratio, nonnegative, floor]

theorem isPositive_iff (d : Decimal) : d.isPositive = true ↔ 0 < d.toRat := by
  have : (0 : ℚ) < 10 ^ d.scale := by positivity
  rw [toRat, ratio, lt_div_iff₀ this, zero_mul]
  cases negative : d.negative <;> simp [isPositive, negative, Nat.pos_iff_ne_zero]

end MultiWallet.Decimal
