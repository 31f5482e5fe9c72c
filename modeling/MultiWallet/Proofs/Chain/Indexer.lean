import MultiWallet.Chain.Indexer
import MultiWallet.Proofs.Coin.Selection
import MultiWallet.Proofs.Dialogue

set_option autoImplicit false

namespace MultiWallet.Indexer

variable {oracle : Oracle} {s t : Session}

theorem requireCurrency_eq_ok {expected : Currency} {transfer : Transfer} :
    requireCurrency expected transfer = .ok () ↔ transfer.amount.currency = expected := by
  unfold requireCurrency
  split
  next same => simp [same, pure, Except.pure]
  next other => simp [other, MultiWallet.fail]

theorem wholeTarget_eq_ok {transfer : Transfer} {target : UInt64} :
    wholeTarget transfer = .ok target ↔ transfer.amount.minor = .ok target.toNat := by
  unfold wholeTarget
  rw [Checked.bind_eq_ok]
  constructor
  · rintro ⟨minor, amount, whole⟩
    split at whole
    next inRange =>
      cases whole
      rw [amount, Coin.toNat_ofNat_of_lt inRange]
    next => cases whole
  · intro amount
    refine ⟨target.toNat, amount, ?_⟩
    rw [if_pos target.toNat_lt]
    simp [pure, Except.pure]

theorem run_build_eq_ok {x : Indexer} {transfer : Transfer} {tx : CoinTransaction} :
    (x.build transfer).run oracle s = (.ok tx, t) ↔
      transfer.amount.currency = x.currency ∧
        ∃ (target : UInt64) (listing : List Coin) (selection : Coin.Selection),
          transfer.amount.minor = .ok target.toNat ∧
          (x.coins transfer.source).run oracle s = (.ok listing, t) ∧
          Coin.select listing target (Coin.wholeRate transfer.rate) x.currency = .ok selection ∧
          assemble x.currency transfer target selection = tx := by
  simp only [build, Dialogue.run_bind_eq_ok, Dialogue.run_liftM, Dialogue.run_pure,
    Prod.mk.injEq, Except.ok.injEq]
  constructor
  · rintro ⟨⟨⟩, _, ⟨same, rfl⟩, target, _, ⟨whole, rfl⟩, listing, _, listed, selection, _,
      ⟨selected, rfl⟩, assembled, rfl⟩
    exact ⟨requireCurrency_eq_ok.1 same, target, listing, selection,
      wholeTarget_eq_ok.1 whole, listed, selected, assembled⟩
  · rintro ⟨same, target, listing, selection, whole, listed, selected, assembled⟩
    exact ⟨(), s, ⟨requireCurrency_eq_ok.2 same, rfl⟩, target, s,
      ⟨wholeTarget_eq_ok.2 whole, rfl⟩, listing, t, listed, selection, t, ⟨selected, rfl⟩,
      assembled, rfl⟩

theorem totalValue_outputs (transfer : Transfer) (target : UInt64) (change : Option UInt64) :
    ((({ address := transfer.destination, value := target } : Output) ::
      change.toList.map fun value => { address := transfer.source, value }).map
        (·.value.toNat)).sum = target.toNat + change.elim 0 UInt64.toNat := by
  cases change <;> simp

/-- No coin is spent twice and no value is lost: what the inputs are worth goes to the destination,
back to the source, and into the fee. -/
theorem value_conserved (x : Indexer) (transfer : Transfer) (oracle : Oracle) (s t : Session)
    (tx : CoinTransaction) (built : (x.build transfer).run oracle s = (.ok tx, t)) :
    ∃ (listing : List Coin) (target : UInt64) (change : Option UInt64),
      (x.coins transfer.source).run oracle s = (.ok listing, t) ∧
      transfer.amount.minor = .ok target.toNat ∧
      tx.inputs.Subperm listing ∧
      tx.outputs =
        { address := transfer.destination, value := target } ::
          change.toList.map (fun value => { address := transfer.source, value }) ∧
      Coin.totalValue tx.inputs < Coin.wordLimit ∧
      Coin.totalValue tx.inputs = (tx.outputs.map (·.value.toNat)).sum + tx.fee.toNat ∧
      (∀ value, change = some value →
        Coin.dustThreshold ≤ value.toNat ∧
        tx.fee.toNat =
          (Coin.wholeRate transfer.rate).toNat * Coin.virtualSize tx.inputs.length 2) ∧
      (change = none →
        (Coin.wholeRate transfer.rate).toNat * Coin.virtualSize tx.inputs.length 1 ≤
          tx.fee.toNat ∧
        tx.fee.toNat <
          (Coin.wholeRate transfer.rate).toNat * Coin.virtualSize tx.inputs.length 2 +
            Coin.dustThreshold) := by
  obtain ⟨-, target, listing, selection, minor, listed, selected, rfl⟩ := run_build_eq_ok.1 built
  obtain ⟨settles, funds, -⟩ := Coin.select_ok selected
  refine ⟨listing, target, selection.change, listed, minor, funds.fromPool, rfl,
    settles.inRange, ?_, settles.change, settles.noChange⟩
  simp only [assemble, totalValue_outputs]
  exact settles.balanced

def listingTwoCoins : Oracle :=
  .web fun _ => .reply
    { status := 200
      body := "[\x7b\"txid\":\"a\",\"vout\":0,\"value\":\"60000\"\x7d," ++
        "\x7b\"txid\":\"b\",\"vout\":1,\"value\":\"60000\"\x7d]" }

def spendingTwoCoins : Transfer :=
  { source := "mine"
    destination := "yours"
    amount := { currency := .bch, value := { negative := false, coefficient := 1, scale := 3 } }
    rate := .ofNat 2 (by decide)
    memo := none }

theorem value_conserved_twoCoins :
    ∃ tx t, (({ currency := .bch, base := "web" } : Indexer).build spendingTwoCoins).run listingTwoCoins
        .empty = (.ok tx, t) ∧
      tx.inputs.Subperm Coin.twoCoins ∧
      Coin.totalValue tx.inputs = (tx.outputs.map (·.value.toNat)).sum + tx.fee.toNat := by
  have sorted : Coin.largestFirst Coin.twoCoins = Coin.twoCoins :=
    List.mergeSort_of_pairwise (by decide)
  have selected : Coin.select Coin.twoCoins 100000 2 .bch =
      .ok { inputs := Coin.twoCoins, change := some 19252, fee := 748 } := by
    rw [Coin.select, sorted]
    rfl
  have built : (({ currency := .bch, base := "web" } : Indexer).build spendingTwoCoins).run
      listingTwoCoins .empty = (.ok _, _) :=
    run_build_eq_ok.2 ⟨rfl, 100000, Coin.twoCoins, _, rfl, rfl, selected, rfl⟩
  obtain ⟨_, _, _, listed, -, fromListing, -, -, conserved, -⟩ := value_conserved _ _ _ _ _ _ built
  cases listed
  exact ⟨_, _, built, fromListing, conserved⟩

end MultiWallet.Indexer
