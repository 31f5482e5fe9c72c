import MultiWallet.Chain.Stellar
import MultiWallet.Proofs.Coin.Selection
import MultiWallet.Proofs.Decimal.Rounding

set_option autoImplicit false

namespace MultiWallet

theorem Stellar.toNat_baseFee (rate : Decimal) :
    (baseFee rate).toNat =
      if rate.toRat < 2 ^ 32 then max ⌊rate.toRat⌋₊ lowestFee else lowestFee := by
  have least : (UInt32.ofNat lowestFee).toNat = lowestFee := rfl
  unfold baseFee
  cases sign : rate.negative with
  | true =>
    have nonpositive := Decimal.toRat_nonpos sign
    rw [Nat.floor_of_nonpos nonpositive]
    simp [Decimal.toNat?, sign, least]
  | false =>
    have word : ⌊rate.toRat⌋₊ < 2 ^ 32 ↔ rate.toRat < 2 ^ 32 := by
      rw [Nat.floor_lt (Decimal.toRat_nonneg sign)]
      norm_cast
    simp only [Decimal.toNat?_eq_floor sign, ← word]
    split_ifs with charged
    · rw [UInt32.toNat_ofNat_of_lt' charged.2, max_eq_left charged.1]
    · omega
    · rw [least, max_eq_right (by omega)]
    · exact least

theorem Coin.toNat_wholeRate (rate : Decimal) :
    (wholeRate rate).toNat = if rate.toRat ≤ largestWord then max ⌈rate.toRat⌉₊ 1 else 1 := by
  unfold wholeRate
  cases sign : rate.negative with
  | true =>
    have nonpositive := Decimal.toRat_nonpos sign
    rw [Nat.ceil_eq_zero.2 nonpositive]
    simp [Decimal.toNat?, Decimal.ceil, Decimal.trunc, sign]
  | false =>
    simp only [Decimal.toNat?_ceil sign, ← Nat.ceil_le]
    have limit := largestWord_succ
    have one : 1 < wordLimit := by decide
    split_ifs
    · exact toNat_ofNat_of_lt (by omega)
    · omega
    · omega
    · rfl

theorem charge_le_iff {m n least : ℕ} {p q : Prop} [Decidable p] [Decidable q] (le : m ≤ n)
    (within : q → p) :
    ((if p then max m least else least) ≤ if q then max n least else least) ↔
      q ∨ m ≤ least ∨ ¬ p := by
  by_cases upper : q
  · rw [if_pos upper, if_pos (within upper)]
    exact iff_of_true (max_le_max_right _ le) (.inl upper)
  · by_cases lower : p <;> simp [upper, lower]

/-- A higher rate is charged no less, unless it is out of range and the lower one is charged more
than the least. -/
theorem unit_charge_mono_iff {a b : Decimal} (le : a.toRat ≤ b.toRat) :
    (Stellar.baseFee a ≤ Stellar.baseFee b ↔
      b.toRat < 2 ^ 32 ∨ a.toRat < 101 ∨ 2 ^ 32 ≤ a.toRat) ∧
    (Coin.wholeRate a ≤ Coin.wholeRate b ↔
      b.toRat ≤ 2 ^ 64 - 1 ∨ a.toRat ≤ 1 ∨ 2 ^ 64 - 1 < a.toRat) := by
  constructor
  · have least : ⌊a.toRat⌋₊ ≤ Stellar.lowestFee ↔ a.toRat < 101 := by
      rw [← Nat.lt_succ_iff, Nat.floor_lt' (by decide)]
      norm_num [Stellar.lowestFee]
    rw [UInt32.le_iff_toNat_le, Stellar.toNat_baseFee, Stellar.toNat_baseFee,
      charge_le_iff (Nat.floor_mono le) le.trans_lt, least, not_lt]
  · have least : ⌈a.toRat⌉₊ ≤ 1 ↔ a.toRat ≤ 1 := by rw [Nat.ceil_le, Nat.cast_one]
    have limit : (Coin.largestWord : ℚ) = 2 ^ 64 - 1 := by norm_num [Coin.largestWord]
    rw [UInt64.le_iff_toNat_le, Coin.toNat_wholeRate, Coin.toNat_wholeRate,
      charge_le_iff (Nat.ceil_mono le) le.trans, least, not_le, limit]

-- A little more than the least for a virtual byte, and a good deal less than it for an operation.
def slightRate : Decimal := (Decimal.ofNat 12 (by decide)).shiftRight 1

def wordRate : Decimal := .ofNat (2 ^ 64) (by decide)

theorem unit_charge_mono_iff_slightRate :
    slightRate.toRat ≤ wordRate.toRat ∧ Stellar.baseFee slightRate ≤ Stellar.baseFee wordRate ∧
      ¬ Coin.wholeRate slightRate ≤ Coin.wholeRate wordRate := by
  have slight : slightRate.toRat = 12 / 10 := by
    rw [slightRate, Decimal.toRat_shiftRight (by decide), Decimal.toRat_ofNat]
    norm_num
  have word : wordRate.toRat = 2 ^ 64 := by norm_num [wordRate]
  have le : slightRate.toRat ≤ wordRate.toRat := by
    rw [slight, word]
    norm_num
  obtain ⟨ledger, coins⟩ := unit_charge_mono_iff le
  rw [ledger, coins, slight, word]
  norm_num

theorem unit_charge_undercut :
    ((Decimal.ofNat 200 (by decide)).toRat ≤ (Decimal.ofNat (2 ^ 32) (by decide)).toRat ∧
        Stellar.baseFee (.ofNat (2 ^ 32) (by decide)) < Stellar.baseFee (.ofNat 200 (by decide))) ∧
      (Decimal.ofNat 2 (by decide)).toRat ≤ (Decimal.ofNat (2 ^ 64) (by decide)).toRat ∧
        Coin.wholeRate (.ofNat (2 ^ 64) (by decide)) < Coin.wholeRate (.ofNat 2 (by decide)) := by
  refine ⟨⟨by norm_num, by decide⟩, by norm_num, by decide⟩

end MultiWallet
