import MultiWallet.Proofs.Memo
import MultiWallet.Proofs.Trade

set_option autoImplicit false

namespace MultiWallet

open Dialogue

def Order.given (o : Order) : Amount := { currency := o.source, value := o.amount }

theorem Order.Trades.given_eq {o : Order} {source : CryptoAccount} {target : Target}
    {action : Action} {amount : Amount} (trades : o.Trades source target action amount)
    (same : amount.currency = source.currency) : o.given = amount := by
  rw [Order.given, trades.source, trades.amount, ← same]

namespace Processor

/-- A positive amount reaches the address that the target stands for. It does so as a positive
number of whole smallest units, rounded down, exactly where there is a whole one at all and the
chain does not take finer amounts. -/
theorem send_pays (asset : Asset) (custodian : Custodian) (source : CryptoAccount) (target : Target)
    (chain : ChainClient) (creation : Oracle) (s t : Session) (p : Processor)
    (own : source.isCustodial = false) (known : asset.chain? = some chain)
    (created : (create asset custodian source target .send).run creation s = (.ok p, t))
    (amount : Amount) (paid : ℚ) (pays : chain.payout? amount = some paid) (level : FeeLevel)
    (oracle : Oracle) (u v : Session) (result : Checked String)
    (executed : (p.execute amount level).run oracle u = (result, v)) :
    ∃ address x calls, (sendAddress target).run creation s = (.ok address, x) ∧
      v.calls = u.calls ++ calls ∧
      (∀ c ∈ calls, asset.parties.signer.Asked c → 0 < amount.units ∧
        ∃ tx, c = asset.parties.signer.request tx ∧ tx.payout? = some (address.text, paid)) ∧
      (0 < ⌊amount.units⌋₊ ∧ paid = ⌊amount.units⌋₊ ↔
        1 ≤ amount.units ∧ (chain.counts = true ∨ amount.Whole)) := by
  obtain ⟨-, engine, _, chosen, rfl, -⟩ := run_create_eq_ok.1 created
  obtain ⟨address, x, resolved, chosen⟩ := run_bind_eq_ok.1 chosen
  simp only [own, Bool.false_eq_true, if_false] at chosen
  have directed := Engine.directed_of_engine chosen
  have carries := Asset.engine_payment? known chosen
  have whole := ChainClient.payout_whole_iff pays
  obtain ⟨looked, ready, before, reads, ended⟩ :=
    run_execute_accepted directed.validate_asks executed
  have unasked (c : Call) (member : c ∈ looked) : ¬ asset.parties.signer.Asked c :=
    Signer.not_asked_of_reads (reads c member)
  obtain ⟨rfl, -⟩ | ⟨-, positive, executed⟩ := ended
  · refine ⟨address, x, looked, resolved, before, ?_, whole⟩
    intro c member asked
    exact absurd asked (unasked c member)
  obtain ⟨calls, log, requests⟩ := directed.requests carries positive pays executed
  refine ⟨address, x, looked ++ calls, resolved, by rw [log, before, List.append_assoc], ?_, whole⟩
  intro c member asked
  rcases List.mem_append.1 member with member | member
  · exact absurd asked (unasked c member)
  · exact ⟨(Amount.isPositive_iff amount).1 positive, requests c member asked⟩

def coins : Asset := { bitcoins with kind := .onChain (.indexer .btc "web") none }

-- The source has one coin of two bitcoins, and every transaction is taken.
def coinServer : Oracle
  | _, .http request =>
    .reply
      { status := 200
        body :=
          if request.url = "web/api/v2/utxo/bc1qmine" then
            "[\x7b\"txid\":\"a\",\"vout\":0,\"value\":\"200000000\"\x7d]"
          else "\x7b\"result\":\"deposit\"\x7d" }
  | calls, c => accepting (.ok "order") calls c

def spendingCoin (destination : String) (value : UInt64) : UnsignedTransaction :=
  .coins
    { currency := .btc
      inputs := [{ txid := "a", index := 0, value := 200000000 }]
      outputs := [{ address := destination, value },
                  { address := "bc1qmine", value := 199999774 - value }]
      fee := 226 }

def bitcoinTransfer (address : String) : OnChainTransfer :=
  { source := bitcoinAccount .nonCustodial, target := .address (.of .btc address)
    payment := coins.payment (.indexer .btc "web"), fees := .external, reporter := .external
    preference := none }

def bitcoinSend : Processor :=
  { id := 0, source := bitcoinAccount .nonCustodial, target := .address (.of .btc "bc1qyours")
    action := .send, engine := .onChain (bitcoinTransfer "bc1qyours") }

def sendCreated : Session := { Session.empty with nextId := 1, counted := [.created .send] }

theorem create_bitcoinSend :
    (create coins .external (bitcoinAccount .nonCustodial) (.address (.of .btc "bc1qyours"))
      .send).run coinServer .empty = (.ok bitcoinSend, sendCreated) := rfl

theorem units_oneBitcoin : oneBitcoin.units = 100000000 := by
  have one : oneBitcoin.value.toRat = 1 := by simp [oneBitcoin]
  have currency : oneBitcoin.currency = .btc := rfl
  rw [Amount.units, one, currency]
  norm_num [Currency.places]

theorem send_pays_bitcoinSend :
    (create coins .external (bitcoinAccount .nonCustodial) (.address (.of .btc "bc1qyours"))
        .send).run coinServer .empty = (.ok bitcoinSend, sendCreated) ∧
      ∃ v tx, (bitcoinSend.execute oneBitcoin .regular).run coinServer sendCreated =
          (.ok "deposit", v) ∧
        .sign tx ∈ v.calls ∧ tx.payout? = some ("bc1qyours", 100000000) := by
  have succeeded : ((bitcoinSend.execute oneBitcoin .regular).run coinServer sendCreated).1 =
      .ok "deposit" := by decide +kernel
  have handed : .sign (spendingCoin "bc1qyours" 100000000) ∈
      ((bitcoinSend.execute oneBitcoin .regular).run coinServer sendCreated).2.calls := by
    decide +kernel
  have paid : (ChainClient.indexer .btc "web").payout? oneBitcoin = some 100000000 := by
    simp [ChainClient.payout?, units_oneBitcoin]
  rcases executed : (bitcoinSend.execute oneBitcoin .regular).run coinServer sendCreated with
    ⟨result, v⟩
  rw [executed] at succeeded handed
  cases succeeded
  refine ⟨create_bitcoinSend, v, spendingCoin "bc1qyours" 100000000, rfl, handed, ?_⟩
  obtain ⟨address, _, calls, resolved, log, pays, -⟩ := send_pays _ _ _ _ _ _ _ _ _ rfl rfl
    create_bitcoinSend oneBitcoin _ paid .regular coinServer sendCreated _ _ executed
  cases resolved
  rw [log] at handed
  obtain ⟨-, tx, same, payout⟩ := pays _ handed ⟨_, rfl⟩
  cases same
  exact payout

-- A tenth of the smallest unit.
def dust (currency : Currency) : Amount :=
  { currency, value := (Decimal.ofUInt64 1).shiftRight (currency.places + 1) }

theorem units_dust (currency : Currency) : (dust currency).units = 1 / 10 := by
  have fits : (Decimal.ofUInt64 1).scale + (currency.places + 1) ≤ 28 := by
    cases currency <;> decide
  have one : (1 : UInt64).toNat = 1 := rfl
  simp only [Amount.units, dust, Decimal.toRat_shiftRight fits, Decimal.toRat_ofUInt64, one]
  field_simp
  rw [Nat.cast_one, one_mul, pow_succ]

def lumenSend : Processor :=
  { id := 0, source := lumenAccount .nonCustodial, target := .address sharedAddress, action := .send
    engine := .stellar { source := lumenAccount .nonCustodial, target := .address sharedAddress
                         payment := lumens.payment (.stellar (.external "ledger") .test)
                         fees := .external, preference := none } }

def lumenDustSent : UnsignedTransaction :=
  .ledger
    { network := .test, passphrase := Network.test.passphrase, source := "GMINE", sequence := 8
      feeStroops := 100, memo := some "12345", operations := [.payment "GSHARED" (dust .xlm).value] }

theorem send_unpaid :
    ((dust .btc).isPositive = true ∧
      (create coins .external (bitcoinAccount .nonCustodial) (.address (.of .btc "bc1qyours"))
          .send).run coinServer .empty = (.ok bitcoinSend, sendCreated) ∧
        ∃ tx, .sign tx ∈
            ((bitcoinSend.execute (dust .btc) .regular).run coinServer sendCreated).2.calls ∧
          tx.payout? = some ("bc1qyours", 0)) ∧
    ((dust .xlm).isPositive = true ∧
      (create lumens .external (lumenAccount .nonCustodial) (.address sharedAddress) .send).run
          willing .empty = (.ok lumenSend, sendCreated) ∧
        ∃ tx, .sign tx ∈
            ((lumenSend.execute (dust .xlm) .none).run willing sendCreated).2.calls ∧
          tx.payout? = some ("GSHARED", 1 / 10)) := by
  refine ⟨⟨rfl, create_bitcoinSend, spendingCoin "bc1qyours" 0, by decide +kernel, rfl⟩, rfl, rfl,
    lumenDustSent, by decide +kernel, ?_⟩
  rw [← units_dust .xlm]
  rfl

/-- Before an order is placed, one deposit is handed to the signer. It pays the address that the
custodian gave, in whole smallest units: as many as there are in the amount of the order, which is
all of it only where there is nothing finer. -/
theorem deposit_pays (asset : Asset) (custodian : Custodian) (source : CryptoAccount)
    (target : Target) (action : Action) (chain : ChainClient) (creation : Oracle) (s t : Session)
    (p : Processor) (trades : action = .sell ∨ action = .swap) (own : source.isCustodial = false)
    (known : asset.chain? = some chain) (counts : chain.counts = true)
    (created : (create asset custodian source target action).run creation s = (.ok p, t))
    (amount : Amount) (level : FeeLevel) (oracle : Oracle) (u v : Session) (result : Checked String)
    (executed : (p.execute amount level).run oracle u = (result, v)) :
    ∃ address x calls, (custodian.depositAddress source.currency).run creation s = (.ok address, x) ∧
      v.calls = u.calls ++ calls ∧
      ∀ c ∈ calls, custodian.Ordered c →
        ∃ order : Order, ∃ tx earlier submission, order.Trades source target action amount ∧
          c = custodian.orderCall order ∧
          calls = earlier ++ [asset.parties.signer.request tx, submission, c] ∧
          (∀ d ∈ earlier ++ [submission], ¬ asset.parties.signer.Asked d) ∧
          tx.payout? = some (address, (⌊order.given.units⌋₊ : ℚ)) ∧
          ((⌊order.given.units⌋₊ : ℚ) = order.given.units ↔ order.given.Whole) := by
  obtain ⟨address, deposit, x, _, calls, found, chosen, log, last⟩ :=
    created_order trades own created executed
  have carries := Asset.engine_payment? known chosen
  have counted := ChainClient.payout?_of_counts counts amount
  refine ⟨address, x, calls, found, log, ?_⟩
  intro c member ordered
  obtain ⟨order, looked, ready, w, hash, trades, sent, currency, positive, before, reads, settled,
    after⟩ := last c member ordered
  obtain ⟨earlier, tx, submission, paid, unasked, payout⟩ := settled.pays carries positive counted
  refine ⟨order, tx, looked ++ earlier, submission, trades, sent, ?_, ?_, ?_,
    Amount.floor_units_eq_iff _⟩
  · apply (List.append_right_inj u.calls).1
    rw [← log, after, paid, before]
    simp [Asset.payment]
  · intro d member
    rw [List.append_assoc] at member
    rcases List.mem_append.1 member with member | member
    · exact Signer.not_asked_of_reads (reads d member)
    · exact unasked d member
  · rw [trades.given_eq currency]
    exact payout

def coinSale : Processor :=
  { id := 0, source := bitcoinAccount .nonCustodial, target := .account dollars, action := .sell
    engine := .fundedTrade { source := bitcoinAccount .nonCustodial, target := dollars
                             kind := .sell, custodian := .external }
      (.onChain (bitcoinTransfer "bc1qdep")) }

def saleOrder (amount : Amount) : Order :=
  { kind := .sell, source := .btc, proceeds := .fiat "USD", amount := amount.value
    depositHash := some "deposit" }

theorem create_coinSale :
    (create coins .external (bitcoinAccount .nonCustodial) (.account dollars) .sell).run coinServer
      .empty = (.ok coinSale, saleCreated) := rfl

theorem deposit_pays_coinSale :
    (create coins .external (bitcoinAccount .nonCustodial) (.account dollars) .sell).run coinServer
        .empty = (.ok coinSale, saleCreated) ∧
      ∃ v, (coinSale.execute oneBitcoin .regular).run coinServer saleCreated = (.ok "order", v) ∧
        ∃ order tx, .sign tx ∈ v.calls ∧ .placeOrder order ∈ v.calls ∧
          tx.payout? = some ("bc1qdep", 100000000) ∧ order.given.units = 100000000 := by
  have succeeded : ((coinSale.execute oneBitcoin .regular).run coinServer saleCreated).1 =
      .ok "order" := by decide +kernel
  have placed : .placeOrder (saleOrder oneBitcoin) ∈
      ((coinSale.execute oneBitcoin .regular).run coinServer saleCreated).2.calls := by
    decide +kernel
  rcases executed : (coinSale.execute oneBitcoin .regular).run coinServer saleCreated with
    ⟨result, v⟩
  rw [executed] at succeeded placed
  cases succeeded
  obtain ⟨address, _, calls, found, log, pays⟩ := deposit_pays _ _ _ _ _ _ _ _ _ _ (.inl rfl) rfl
    rfl rfl create_coinSale oneBitcoin .regular coinServer saleCreated _ _ executed
  cases found
  have placed' : .placeOrder (saleOrder oneBitcoin) ∈ calls := by
    rw [log] at placed
    simpa [saleCreated] using placed
  obtain ⟨order, tx, earlier, submission, -, same, split, -, payout, -⟩ := pays _ placed' ⟨_, rfl⟩
  cases same
  have given : (saleOrder oneBitcoin).given.units = 100000000 := units_oneBitcoin
  rw [given] at payout
  refine ⟨create_coinSale, v, rfl, saleOrder oneBitcoin, tx, ?_, placed, by simpa using payout, given⟩
  rw [log, split]
  simp [Signer.request, coins, bitcoins]

def oneBitcoinAndDust : Amount :=
  { currency := .btc, value := (Decimal.ofUInt64 1000000001).shiftRight 9 }

theorem deposit_short :
    (create coins .external (bitcoinAccount .nonCustodial) (.account dollars) .sell).run coinServer
        .empty = (.ok coinSale, saleCreated) ∧
      ∃ v, (coinSale.execute oneBitcoinAndDust .regular).run coinServer saleCreated =
          (.ok "order", v) ∧
        ∃ order tx, .sign tx ∈ v.calls ∧ .placeOrder order ∈ v.calls ∧
          tx.payout? = some ("bc1qdep", 100000000) ∧ order.given.units = 100000000 + 1 / 10 := by
  have succeeded : ((coinSale.execute oneBitcoinAndDust .regular).run coinServer saleCreated).1 =
      .ok "order" := by decide +kernel
  refine ⟨create_coinSale, _, Prod.ext succeeded rfl, saleOrder oneBitcoinAndDust,
    spendingCoin "bc1qdep" 100000000, by decide +kernel, by decide +kernel, ?_, ?_⟩
  · have value : (100000000 : UInt64).toNat = 100000000 := rfl
    simp [UnsignedTransaction.payout?, spendingCoin, value]
  · have fits : (Decimal.ofUInt64 1000000001).scale + 9 ≤ 28 := by decide
    have count : (1000000001 : UInt64).toNat = 1000000001 := rfl
    have value : oneBitcoinAndDust.value.toRat = 1000000001 / 10 ^ 9 := by
      simp [oneBitcoinAndDust, Decimal.toRat_shiftRight fits, count]
    have given : (saleOrder oneBitcoinAndDust).given.units =
        oneBitcoinAndDust.value.toRat * 10 ^ 8 := rfl
    rw [given, value]
    norm_num

end Processor

end MultiWallet
