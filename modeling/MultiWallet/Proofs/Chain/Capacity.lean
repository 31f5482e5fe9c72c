import MultiWallet.Proofs.Chain.Indexer
import MultiWallet.Proofs.Chain.Overflow

set_option autoImplicit false

namespace MultiWallet

open Dialogue

variable {oracle : Oracle} {s t : Session} {rate : Decimal} {account : String} {m : Amount}

namespace Indexer

theorem maximum_le_total {x : Indexer}
    (found : (x.maximum account rate).run oracle s = (.ok m, t)) :
    ∃ coins, (x.coins account).run oracle s = (.ok coins, t) ∧ m.currency = x.currency ∧
      0 ≤ m.value.toRat ∧ m.value.toRat ≤ Coin.totalValue coins / 10 ^ x.currency.places := by
  obtain ⟨coins, _, listed, rest⟩ := run_bind_eq_ok.1 found
  cases rest
  refine ⟨coins, listed, rfl, ?_⟩
  rw [Amount.toRat_ofMinor]
  have sweep : (UInt64.ofNat (Coin.sweep coins (Coin.wholeRate rate))).toNat ≤
      Coin.totalValue coins := by
    refine (Nat.mod_le _ _).trans ?_
    unfold Coin.sweep
    split <;> omega
  refine ⟨by positivity, div_le_div_of_nonneg_right ?_ (by positivity)⟩
  exact_mod_cast sweep

end Indexer

namespace Stellar

theorem minimumBalance_nonneg {a : StellarAccount} {d : Decimal}
    (found : a.minimumBalance = .ok d) : 0 ≤ d.toRat := by
  obtain ⟨-, halted⟩ | ⟨-, minimum, kept, value⟩ := a.minimumBalance_cases
  · cases halted.symm.trans found
  · cases kept.symm.trans found
    rw [value, StellarAccount.reserved]
    positivity

theorem spendable_le_native {a : StellarAccount} (found : spendable a rate = .ok m) :
    ∃ native, a.nativeBalance = .ok native ∧ m.currency = .xlm ∧ 0 ≤ m.value.toRat ∧
      m.value.toRat ≤ max native.toRat 0 := by
  obtain ⟨native, known, found⟩ := Checked.bind_eq_ok.1 found
  obtain ⟨minimum, kept, found⟩ := Checked.bind_eq_ok.1 found
  obtain ⟨free, difference, left⟩ := Checked.bind_eq_ok.1 found
  obtain ⟨_, -, currency, -⟩ := Amount.remainder_eq left
  have rest := Amount.remainder_le left (Amount.ofMinor_nonneg _ _)
  have reserve : free.toRat ≤ max native.toRat 0 :=
    Decimal.sub?_le (minimumBalance_nonneg kept) (orOverflow_eq_ok.1 difference)
  exact ⟨native, known, currency, Amount.remainder_nonneg left,
    rest.trans (max_le reserve (le_max_right _ _))⟩

theorem maximum_le_balance {x : Stellar}
    (found : (x.maximum account rate).run oracle s = (.ok m, t)) :
    ∃ balance, (x.balance account).run oracle s = (.ok balance, t) ∧ m.currency = .xlm ∧
      0 ≤ m.value.toRat ∧ m.value.toRat ≤ max balance.value.toRat 0 := by
  obtain ⟨known, u, asked, found⟩ := run_bind_eq_ok.1 found
  cases known with
  | none =>
    cases found
    refine ⟨.zero .xlm, run_bind_eq_ok.2 ⟨none, _, asked, rfl⟩, rfl, ?_, ?_⟩
    · exact Decimal.toRat_zero.ge
    · exact le_max_left _ _
  | some a =>
    obtain ⟨left, rfl⟩ : spendable a rate = .ok m ∧ u = t := by simpa using found
    obtain ⟨native, held, bounds⟩ := spendable_le_native left
    refine ⟨{ currency := .xlm, value := native }, ?_, bounds⟩
    refine run_bind_eq_ok.2 ⟨some a, _, asked, run_bind_eq_ok.2 ⟨native, _, ?_, rfl⟩⟩
    rw [run_liftM, held]

end Stellar

namespace Evm

variable {x : Evm}

def Refunds (rate : Decimal) (gasLimit : UInt64) : Prop := rate.toRat * 10 ^ 9 ≤ -1 ∧ gasLimit ≠ 0

theorem gasPrice_neg_iff {price : Decimal} (found : gasPrice rate = .ok price) :
    price.scale = 0 ∧ (price.toRat < 0 ↔ rate.toRat * 10 ^ 9 ≤ -1) := by
  obtain ⟨product, scaled, truncated⟩ := Checked.bind_eq_ok.1 found
  cases truncated
  have exact : product.toRat = rate.toRat * 10 ^ 9 :=
    Decimal.toRat_mul?_powerOfTen (k := 9) (orOverflow_eq_ok.1 scaled)
  refine ⟨rfl, ?_⟩
  rw [Decimal.trunc_neg_iff, exact]

theorem charge_neg_iff {currency : Currency} {price total : Decimal} {gasLimit : UInt64}
    {cost : Amount} (whole : price.scale = 0)
    (scaled : price.mul? (.ofUInt64 gasLimit) = some total)
    (read : Amount.ofMinorText currency total.toText = .ok cost) :
    cost.currency = currency ∧ cost.value.scale ≤ currency.places ∧
      (cost.value.toRat < 0 ↔ price.toRat < 0 ∧ gasLimit ≠ 0) := by
  obtain ⟨scale, product⟩ := Decimal.toRat_mul?_whole whole rfl scaled
  obtain ⟨same, value, places⟩ := Amount.of_ofMinorText_whole scale read
  refine ⟨same, places, ?_⟩
  have power : (0 : ℚ) < 10 ^ currency.places := by positivity
  have gas : (0 : ℚ) < gasLimit.toNat ↔ gasLimit ≠ 0 := by
    rw [Nat.cast_pos, Nat.pos_iff_ne_zero, ne_eq, ← UInt64.toNat_zero, UInt64.toNat_inj]
  have least : ¬ (gasLimit.toNat : ℚ) < 0 := (Nat.cast_nonneg _).not_gt
  rw [value, product, Decimal.toRat_ofUInt64, div_lt_iff₀ power, zero_mul, mul_neg_iff, ← gas]
  simp [least]

theorem transferCost_neg_iff {cost : Amount} (found : x.transferCost rate = .ok cost) :
    cost.value.scale ≤ x.currency.places ∧
      (cost.value.toRat < 0 ↔ Refunds rate x.gasLimit) := by
  obtain ⟨price, priced, found⟩ := Checked.bind_eq_ok.1 found
  obtain ⟨total, scaled, read⟩ := Checked.bind_eq_ok.1 found
  obtain ⟨whole, sign⟩ := gasPrice_neg_iff priced
  obtain ⟨-, places, charge⟩ := charge_neg_iff whole (orOverflow_eq_ok.1 scaled) read
  rw [sign] at charge
  exact ⟨places, charge⟩

theorem fee_neg_iff {tx : EvmTransaction} {price : Decimal} {fee : Amount}
    (priced : gasPrice rate = .ok price) (text : tx.gasPriceWei = price.toText)
    (charged : tx.fee = .ok fee) :
    fee.currency = tx.currency ∧ (fee.value.toRat < 0 ↔ Refunds rate tx.gasLimit) := by
  obtain ⟨whole, sign⟩ := gasPrice_neg_iff priced
  obtain ⟨e, known, scale, value⟩ := Decimal.ofString_toText_whole whole
  rw [EvmTransaction.fee, text, known] at charged
  obtain ⟨total, scaled, read⟩ := Checked.bind_eq_ok.1 charged
  obtain ⟨same, -, charge⟩ := charge_neg_iff scale (orOverflow_eq_ok.1 scaled) read
  rw [value, sign] at charge
  exact ⟨same, charge⟩

theorem balance_bounds {b : Amount} (found : (x.balance account).run oracle s = (.ok b, t)) :
    b.currency = x.currency ∧ b.value.scale ≤ x.currency.places ∧ 0 ≤ b.value.toRat ∧
      b.value.toRat * 10 ^ x.currency.places < 2 ^ 96 := by
  obtain ⟨_, _, -, found⟩ := run_bind_eq_ok.1 found
  obtain ⟨wei, u, -, found⟩ := run_bind_eq_ok.1 found
  obtain ⟨read, -⟩ : Amount.ofMinorText x.currency (toString wei) = .ok b ∧ u = t := by
    simpa using found
  obtain ⟨fits, currency, -⟩ := Amount.holds_of_ofMinorText read
  have text : toString wei = (Decimal.ofNat wei fits).toText :=
    (Decimal.toText_whole (d := .ofNat wei fits) rfl rfl).symm
  rw [text] at read
  obtain ⟨-, value, places⟩ := Amount.of_ofMinorText_whole rfl read
  rw [value, Decimal.toRat_ofNat, div_mul_cancel₀ _ (by positivity)]
  exact ⟨currency, places, by positivity, by exact_mod_cast fits⟩

theorem balance_lt_maximum_iff
    (found : (x.maximum account rate).run oracle s = (.ok m, t)) :
    ∃ b, (x.balance account).run oracle s = (.ok b, t) ∧ m.currency = x.currency ∧
      0 ≤ b.value.toRat ∧ 0 ≤ m.value.toRat ∧
      (b.value.toRat < m.value.toRat ↔ Refunds rate x.gasLimit) := by
  obtain ⟨b, u, known, found⟩ := run_bind_eq_ok.1 found
  obtain ⟨cost, v, pricing, found⟩ := run_bind_eq_ok.1 found
  obtain ⟨priced, rfl⟩ : x.transferCost rate = .ok cost ∧ u = v := by simpa using pricing
  obtain ⟨left, rfl⟩ : b.remainder cost = .ok m ∧ u = t := by simpa using found
  obtain ⟨currency, places, nonnegative, fits⟩ := balance_bounds known
  obtain ⟨costPlaces, charge⟩ := transferCost_neg_iff priced
  obtain ⟨d, difference, same, value⟩ := Amount.remainder_eq left
  refine ⟨b, known, same.trans currency, nonnegative, Amount.remainder_nonneg left, ?_⟩
  rw [← charge]
  constructor
  · intro more
    by_contra paid
    have most := Amount.remainder_le left (not_lt.1 paid)
    rw [max_eq_left nonnegative] at most
    exact most.not_gt more
  · intro refunded
    rw [value]
    refine lt_max_of_lt_left ?_
    obtain exact | large := Decimal.sub?_exact_or_large places costPlaces difference
    · rw [exact]
      linarith
    · -- A difference that was rounded is larger than any balance.
      rw [abs_of_nonneg (Decimal.sub?_nonneg (by linarith) difference)] at large
      exact lt_of_mul_lt_mul_right (fits.trans large) (by positivity)

end Evm

namespace ChainClient

def Own : ChainClient → Prop
  | .external _ _ => False
  | .indexer _ _ | .stellar _ _ | .evm _ _ _ => True

/-- What the upstream reports to be there, in major units: on chains of coins what the listed coins
are worth, elsewhere the balance. -/
def funds (chain : ChainClient) (account : String) : Dialogue ℚ :=
  match chain with
  | .indexer currency base => do
    let coins ← ({ currency, base : Indexer }).coins account
    return Coin.totalValue coins / 10 ^ currency.places
  | .external _ _ | .stellar _ _ | .evm _ _ _ => do
    let balance ← chain.balance account
    return balance.value.toRat

/-- A transaction at the rate is paid for with gas of a negative price. A gas limit stands above the
chain's own. -/
def Refunds (chain : ChainClient) (rate : Decimal) (limit : Option UInt64) : Prop :=
  match chain with
  | .evm _ _ gasLimit => Evm.Refunds rate (limit.getD gasLimit)
  | .external _ _ | .indexer _ _ | .stellar _ _ => False

theorem funds_lt_maximum_iff {chain : ChainClient} (own : chain.Own)
    (found : (chain.maximum account rate).run oracle s = (.ok m, t)) :
    ∃ funds, (chain.funds account).run oracle s = (.ok funds, t) ∧ m.currency = chain.currency ∧
      0 ≤ m.value.toRat ∧ (max funds 0 < m.value.toRat ↔ chain.Refunds rate none) := by
  cases chain with
  | external name currency => exact own.elim
  | indexer currency base =>
    obtain ⟨coins, listed, same, least, most⟩ := Indexer.maximum_le_total found
    refine ⟨_, run_bind_eq_ok.2 ⟨coins, t, listed, rfl⟩, same, least, ?_⟩
    exact iff_of_false (most.trans (le_max_left _ _)).not_gt id
  | stellar server network =>
    obtain ⟨b, known, same, least, most⟩ := Stellar.maximum_le_balance found
    refine ⟨_, run_bind_eq_ok.2 ⟨b, t, known, rfl⟩, same, least, ?_⟩
    exact iff_of_false most.not_gt id
  | evm currency url gasLimit =>
    obtain ⟨b, known, same, nonnegative, least, more⟩ := Evm.balance_lt_maximum_iff found
    refine ⟨_, run_bind_eq_ok.2 ⟨b, t, known, rfl⟩, same, least, ?_⟩
    rw [max_eq_left nonnegative]
    exact more

end ChainClient

theorem Payment.fee_neg_iff {p : Payment} (own : p.chain.Own) {amount fee : Amount}
    {sender : Sender} {destination : String} {memo : Option String} {schedule : FeeSchedule}
    {type : FeeType} {tx : UnsignedTransaction}
    (built : (p.build amount sender destination memo schedule type).run oracle s = (.ok tx, t))
    (charged : tx.fee = .ok fee) :
    fee.currency = p.chain.currency ∧
      (fee.value.toRat < 0 ↔ p.chain.Refunds (schedule.rate type) schedule.gasLimit) := by
  obtain ⟨chain, signer⟩ := p
  obtain ⟨plain, _, built, last⟩ := run_bind_eq_ok.1 built
  cases last
  cases chain with
  | external name currency => exact own.elim
  | indexer currency base =>
    obtain ⟨plain, assembled, rfl⟩ := run_map_eq_ok.1 built
    obtain ⟨-, _, _, _, -, -, -, rfl⟩ := Indexer.run_build_eq_ok.1 assembled
    cases charged
    exact ⟨rfl, iff_of_false (Amount.ofMinor_nonneg _ _).not_gt id⟩
  | stellar server network =>
    obtain ⟨plain, -, rfl⟩ := run_map_eq_ok.1 built
    cases charged
    exact ⟨rfl, iff_of_false (Amount.ofMinor_nonneg _ _).not_gt id⟩
  | evm currency url gasLimit =>
    obtain ⟨plain, made, rfl⟩ := run_map_eq_ok.1 built
    obtain ⟨-, _, _, _, price, -, -, -, -, priced, rfl⟩ := Evm.run_build_eq_ok.1 made
    exact Evm.fee_neg_iff priced rfl charged

end MultiWallet
