import MultiWallet.Proofs.Amount.Minor
import MultiWallet.Proofs.Chain.Indexer
import MultiWallet.Proofs.Coin.Sweep

set_option autoImplicit false

namespace MultiWallet

open Dialogue

theorem Amount.ofMinor_minor (currency : Currency) (n : UInt64) :
    (ofMinor currency n).minor = .ok n.toNat :=
  minor_of_whole (toRat_ofMinor currency n) (n.toNat_lt.trans (by decide))

theorem Amount.pos_of_ofMinor {currency : Currency} {n : UInt64}
    (positive : (ofMinor currency n).isPositive = true) : 0 < n.toNat := by
  rw [Amount.isPositive, Decimal.isPositive_iff, toRat_ofMinor] at positive
  exact_mod_cast (div_pos_iff_of_pos_right (by positivity)).1 positive

namespace Indexer

variable {oracle : Oracle} {s t : Session}

theorem run_maximum_eq_ok {x : Indexer} {account : String} {rate : Decimal} {m : Amount} :
    (x.maximum account rate).run oracle s = (.ok m, t) ↔
      ∃ coins, (x.coins account).run oracle s = (.ok coins, t) ∧
        m = .ofMinor x.currency (.ofNat (Coin.sweep coins (Coin.wholeRate rate))) := by
  unfold maximum
  rw [run_bind_eq_ok]
  constructor
  · rintro ⟨coins, _, listed, rest⟩
    cases rest
    exact ⟨coins, listed, rfl⟩
  · rintro ⟨coins, listed, rfl⟩
    exact ⟨coins, t, listed, rfl⟩

/-- The most that was found for an account can be paid from the same listing at the same rate. The
inputs are worth the payment and the fee, and no more than what is listed. -/
theorem maximum_spendable (x : Indexer) (account : String) (rate : Decimal) (oracle : Oracle)
    (s t : Session) (coins : List Coin) (m : Amount)
    (found : (x.maximum account rate).run oracle s = (.ok m, t))
    (listed : (x.coins account).run oracle s = (.ok coins, t))
    (inRange : Coin.totalValue coins < Coin.wordLimit) (positive : m.isPositive = true)
    (destination : String) (memo : Option String) (later : Oracle) (u v : Session)
    (listedAgain : (x.coins account).run later u = (.ok coins, v)) :
    ∃ (tx : CoinTransaction) (target : UInt64),
      (x.build { source := account, destination, amount := m, rate, memo }).run later u =
        (.ok tx, v) ∧
      m.minor = .ok target.toNat ∧
      tx.outputs.head? = some { address := destination, value := target } ∧
      target.toNat + tx.fee.toNat ≤ Coin.totalValue coins := by
  obtain ⟨_, known, rfl⟩ := run_maximum_eq_ok.1 found
  cases known.symm.trans listed
  have counted := Amount.ofMinor_minor x.currency
    (UInt64.ofNat (Coin.sweep coins (Coin.wholeRate rate)))
  have most := Coin.toNat_ofNat_of_lt (Coin.sweep_lt (Coin.wholeRate rate) inRange)
  -- All coins together pay it, so a selection exists, though the one made may take fewer.
  have funds := Coin.funds_of_le_sweep inRange (Amount.pos_of_ofMinor positive) most.le
  generalize UInt64.ofNat (Coin.sweep coins (Coin.wholeRate rate)) = target at *
  cases selected : Coin.select coins target (Coin.wholeRate rate) x.currency with
  | error halt => exact absurd funds ((Coin.select_error inRange selected).2 coins)
  | ok selection =>
    obtain ⟨settles, ⟨-, fromListing, -⟩, -⟩ := Coin.select_ok selected
    refine ⟨_, target, run_build_eq_ok.2 ⟨rfl, target, coins, selection, counted, listedAgain,
      selected, rfl⟩, counted, rfl, ?_⟩
    have balanced := settles.balanced
    have worth := Coin.totalValue_le_of_subperm fromListing
    simp only [assemble]
    omega

theorem maximum_spendable_twoCoins :
    ∃ m t tx, (({ currency := .bch, base := "web" } : Indexer).maximum "mine"
        (.ofNat 2 (by decide))).run listingTwoCoins .empty = (.ok m, t) ∧
      Coin.totalValue Coin.twoCoins < Coin.wordLimit ∧ m.isPositive = true ∧
      (({ currency := .bch, base := "web" } : Indexer).build
        { source := "mine", destination := "yours", amount := m, rate := .ofNat 2 (by decide)
          memo := none }).run listingTwoCoins .empty = (.ok tx, t) ∧
      119320 + tx.fee.toNat ≤ Coin.totalValue Coin.twoCoins := by
  have inRange : Coin.totalValue Coin.twoCoins < Coin.wordLimit := by decide
  have found : (({ currency := .bch, base := "web" } : Indexer).maximum "mine"
      (.ofNat 2 (by decide))).run listingTwoCoins .empty = (.ok (.ofMinor .bch 119320), _) :=
    run_maximum_eq_ok.2 ⟨Coin.twoCoins, rfl, rfl⟩
  have positive : (Amount.ofMinor .bch 119320).isPositive = true := by decide
  obtain ⟨tx, target, built, counted, -, covered⟩ := maximum_spendable _ _ _ _ _ _ Coin.twoCoins _
    found rfl inRange positive "yours" none listingTwoCoins .empty _ rfl
  have paid : 119320 = target.toNat :=
    Except.ok.inj ((Amount.ofMinor_minor .bch 119320).symm.trans counted)
  exact ⟨_, _, tx, found, inRange, positive, built, paid ▸ covered⟩

end Indexer

end MultiWallet
