import MultiWallet.Amount
import MultiWallet.Proofs.Decimal.Rounding
import MultiWallet.Proofs.Decimal.Text
import MultiWallet.Proofs.Dialogue

set_option autoImplicit false

namespace MultiWallet.Amount

/-- The amount is worth so many of its smallest units. -/
def Holds (a : Amount) (units : Nat) : Prop := a.value.toRat = units / 10 ^ a.currency.places

/-- What the amount is worth in smallest units of its currency, with what is finer than one. -/
def units (a : Amount) : ℚ := a.value.toRat * 10 ^ a.currency.places

def Whole (a : Amount) : Prop := ∃ n : ℕ, a.units = n

theorem isPositive_iff (a : Amount) : a.isPositive = true ↔ 0 < a.units := by
  have : (0 : ℚ) < 10 ^ a.currency.places := by positivity
  rw [isPositive, Decimal.isPositive_iff, units, mul_pos_iff_of_pos_right this]

theorem floor_units_eq_iff (a : Amount) : (⌊a.units⌋₊ : ℚ) = a.units ↔ a.Whole := by
  constructor
  · intro same
    exact ⟨_, same.symm⟩
  · rintro ⟨n, whole⟩
    rw [whole, Nat.floor_natCast]

theorem minor_eq_floor {a : Amount} {n : Nat} (nonnegative : 0 ≤ a.value.signed)
    (counted : a.minor = .ok n) : n = ⌊a.units⌋₊ := by
  unfold minor at counted
  cases scaled : a.value.mul? (unit a.currency) with
  | none =>
    rw [scaled] at counted
    cases counted
  | some d =>
    have sign : d.negative = false := Decimal.mul?_nonnegative nonnegative rfl scaled
    have value : d.toRat = a.units := Decimal.toRat_mul?_powerOfTen scaled
    rw [scaled, Option.bind_some, Decimal.toNat?_eq_floor sign, value] at counted
    cases counted
    rfl

theorem signed_nonneg_of_isPositive {a : Amount} (positive : a.isPositive = true) :
    0 ≤ a.value.signed := by
  simp only [isPositive, Decimal.isPositive, Bool.and_eq_true, Bool.not_eq_true'] at positive
  simp [Decimal.signed, positive.1]

theorem places_le (c : Currency) : c.places ≤ 28 := Nat.le_of_lt_succ c.places_lt

theorem ofMinorText_eq (currency : Currency) (n : Nat) :
    (∃ a, ofMinorText currency (toString n) = .ok a ∧ n < 2 ^ 96 ∧ a.currency = currency ∧
      a.Holds n) ∨
    2 ^ 96 ≤ n ∧ ∃ cause, ofMinorText currency (toString n) = fail cause := by
  have solid : ∀ c ∈ Nat.toDigits 10 n, Text.isBlank c = false := fun c member =>
    Text.isBlank_of_isDigit (Nat.isDigit_of_mem_toDigits (by decide) (by decide) member)
  have text : Text.trim (toString n).toList = Nat.toDigits 10 n := by
    rw [Nat.toString_eq_repr, Nat.toList_repr, Text.trim_of_forall solid]
  unfold ofMinorText
  rw [text]
  rcases Decimal.read_toDigits n with ⟨fits, ok⟩ | ⟨large, error⟩
  · rw [ok]
    refine .inl ⟨_, rfl, fits, rfl, ?_⟩
    have shifted : (Decimal.ofNat n fits).scale + currency.places ≤ 28 := by
      simpa [Decimal.ofNat] using places_le currency
    rw [Holds, Decimal.toRat_normalize, Decimal.toRat_shiftRight shifted, Decimal.toRat_ofNat]
  · rw [error]
    exact .inr ⟨large, _, rfl⟩

theorem holds_of_ofMinorText {currency : Currency} {n : Nat} {a : Amount}
    (read : ofMinorText currency (toString n) = .ok a) :
    n < 2 ^ 96 ∧ a.currency = currency ∧ a.Holds n := by
  rcases ofMinorText_eq currency n with ⟨b, ok, fits, same, holds⟩ | ⟨-, cause, error⟩
  · cases ok.symm.trans read
    exact ⟨fits, same, holds⟩
  · cases error.symm.trans read

theorem exists_difference {m n k : Nat} (le : k ≤ 28) (hm : m < 2 ^ 96) (hn : n < 2 ^ 96) :
    ∃ d : Decimal, d.toRat = (m : ℚ) / 10 ^ k - n / 10 ^ k := by
  rw [← sub_div]
  rcases Nat.le_total n m with larger | larger
  · refine ⟨{ negative := false, coefficient := m - n, scale := k, coefficient_lt := by omega
              scale_le := le }, ?_⟩
    simp [Decimal.toRat, Decimal.ratio, Nat.cast_sub larger]
  · refine ⟨{ negative := true, coefficient := n - m, scale := k, coefficient_lt := by omega
              scale_le := le }, ?_⟩
    simp [Decimal.toRat, Decimal.ratio, Nat.cast_sub larger]

theorem requireCurrency_eq_ok {a b : Amount} :
    a.requireCurrency b = .ok () ↔ a.currency = b.currency := by
  unfold requireCurrency
  split <;> simp_all

theorem sub_of_holds {a b rest : Amount} {m n : Nat} (ha : a.Holds m) (hb : b.Holds n)
    (hm : m < 2 ^ 96) (hn : n < 2 ^ 96) (left : a.sub b = .ok rest) :
    rest.currency = a.currency ∧
      rest.value.toRat = ((m : ℚ) - n) / 10 ^ a.currency.places := by
  unfold sub at left
  obtain ⟨⟨⟩, currencies, subtracted⟩ := Checked.bind_eq_ok.1 left
  have same := requireCurrency_eq_ok.1 currencies
  obtain ⟨e, value⟩ := exists_difference (places_le a.currency) hm hn
  rw [Holds, ← same] at hb
  rw [← ha, ← hb] at value
  obtain ⟨d, difference, value⟩ := Decimal.sub?_exact value
  rw [difference] at subtracted
  cases subtracted
  refine ⟨rfl, ?_⟩
  rw [value, ha, hb, sub_div]

theorem remainder_positive {a b rest : Amount} {m n : Nat} (ha : a.Holds m) (hb : b.Holds n)
    (hm : m < 2 ^ 96) (hn : n < 2 ^ 96) (left : a.remainder b = .ok rest)
    (positive : rest.isPositive = true) :
    n < m ∧ rest.currency = a.currency ∧ rest.Holds (m - n) := by
  unfold remainder at left
  obtain ⟨difference, subtracted, kept⟩ := Checked.bind_eq_ok.1 left
  obtain ⟨currency, value⟩ := sub_of_holds ha hb hm hn subtracted
  split at kept
  next negative =>
    cases kept
    cases positive
  next =>
    cases kept
    have larger : n < m := by
      have power : (0 : ℚ) < 10 ^ a.currency.places := by positivity
      have := (Decimal.isPositive_iff _).1 positive
      rw [value, lt_div_iff₀ power, zero_mul, sub_pos] at this
      exact_mod_cast this
    refine ⟨larger, currency, ?_⟩
    rw [Holds, value, currency, Nat.cast_sub larger.le]

theorem remainder_eq {a b rest : Amount} (left : a.remainder b = .ok rest) :
    ∃ d, a.value.sub? b.value = some d ∧ rest.currency = a.currency ∧
      rest.value.toRat = max d.toRat 0 := by
  obtain ⟨difference, subtracted, kept⟩ := Checked.bind_eq_ok.1 left
  obtain ⟨_, -, subtracted⟩ := Checked.bind_eq_ok.1 subtracted
  split at subtracted
  next d found =>
    cases subtracted
    refine ⟨d, found, ?_⟩
    split at kept
    next negative =>
      cases kept
      exact ⟨rfl, (max_eq_right (Decimal.toRat_nonpos negative)).symm ▸ Decimal.toRat_zero⟩
    next nonnegative =>
      cases kept
      exact ⟨rfl, (max_eq_left (Decimal.toRat_nonneg (by simpa using nonnegative))).symm⟩
  next => cases subtracted

theorem remainder_nonneg {a b rest : Amount} (left : a.remainder b = .ok rest) :
    0 ≤ rest.value.toRat := by
  obtain ⟨d, -, -, value⟩ := remainder_eq left
  rw [value]
  exact le_max_right _ _

theorem remainder_le {a b rest : Amount} (left : a.remainder b = .ok rest)
    (cost : 0 ≤ b.value.toRat) : rest.value.toRat ≤ max a.value.toRat 0 := by
  obtain ⟨d, difference, -, value⟩ := remainder_eq left
  rw [value]
  exact max_le (Decimal.sub?_le cost difference) (le_max_right _ _)

theorem toRat_ofMinor (currency : Currency) (n : UInt64) :
    (ofMinor currency n).value.toRat = n.toNat / 10 ^ currency.places := by
  have shifted : (Decimal.ofUInt64 n).scale + currency.places ≤ 28 := by
    simpa [Decimal.ofUInt64, Decimal.ofNat] using places_le currency
  rw [ofMinor, Decimal.toRat_normalize, Decimal.toRat_shiftRight shifted, Decimal.toRat_ofUInt64]

theorem ofMinor_nonneg (currency : Currency) (n : UInt64) :
    0 ≤ (ofMinor currency n).value.toRat := by
  rw [toRat_ofMinor]
  positivity

theorem of_ofMinorText_whole {currency : Currency} {d : Decimal} {a : Amount}
    (whole : d.scale = 0) (read : ofMinorText currency d.toText = .ok a) :
    a.currency = currency ∧ a.value.toRat = d.toRat / 10 ^ currency.places ∧
      a.value.scale ≤ currency.places := by
  obtain ⟨e, known, scale, value⟩ := Decimal.ofString_toText_whole whole
  rw [ofMinorText, Decimal.trim_toText_whole whole, ← Decimal.ofString, known] at read
  cases read
  have shifted : e.scale + currency.places ≤ 28 := by
    rw [scale, Nat.zero_add]
    exact places_le currency
  refine ⟨rfl, ?_, ?_⟩
  · rw [Decimal.toRat_normalize, Decimal.toRat_shiftRight shifted, value]
  · refine (Decimal.normalize_scale_le _).trans ?_
    rw [Decimal.shiftRight, dif_pos shifted]
    exact (congrArg (· + currency.places) scale).trans_le (Nat.zero_add _).le

end MultiWallet.Amount
