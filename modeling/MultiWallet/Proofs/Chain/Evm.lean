import MultiWallet.Engine.Payment
import MultiWallet.Proofs.Amount.Minor

set_option autoImplicit false

namespace MultiWallet

theorem JsonRpc.run_call_ok {α : Type} {currency : Currency} {url method : String} {params : Json}
    {decode : Json → Option α} {oracle : Oracle} {s : Session} {r : Http.Reply} {value : Json}
    {a : α} (permitted : Http.refusal? url = none)
    (replied : oracle s.calls (.http (Http.postJson url none (request method params))) = .reply r)
    (answered : (Json.ofString r.body).bind readResponse = some (.result value))
    (decoded : decode value = some a) :
    (call currency url method params decode).run oracle s =
      (.ok a, { s with
        calls := s.calls ++ [.http (Http.postJson url none (request method params))] }) := by
  simp only [call, permitted]
  rw [Dialogue.run_bind_ok (Dialogue.run_ask _ _ _), replied]
  simp only [answered, decoded]
  rfl

/-- What a transaction takes from its sender, in wei. -/
def EvmTransaction.outlay? (tx : EvmTransaction) : Option Nat := do
  let value ← tx.valueWei.toNat?
  let price ← tx.gasPriceWei.toNat?
  return value + tx.gasLimit.toNat * price

theorem EvmTransaction.outlay?_eq_some {tx : EvmTransaction} {value price : Nat}
    (valueText : tx.valueWei = toString value) (priceText : tx.gasPriceWei = toString price) :
    tx.outlay? = some (value + tx.gasLimit.toNat * price) := by
  simp only [outlay?, valueText, priceText, Nat.toString_eq_repr, Nat.toNat?_repr]
  rfl

namespace Evm

variable {oracle : Oracle} {s t : Session} {x : Evm}

def held (x : Evm) (account : String) : Dialogue Nat := do
  let address ← x.address account
  x.call "eth_getBalance" (.array [.string address, .string "latest"]) (JsonRpc.readQuantity 64)

def sent (x : Evm) (account : String) : Dialogue Nat := do
  let address ← x.address account
  x.call "eth_getTransactionCount" (.array [.string address, .string "latest"])
    (JsonRpc.readQuantity 64)

theorem gasPrice_whole {rate price : Decimal} (nonnegative : 0 ≤ rate.signed)
    (found : gasPrice rate = .ok price) : price.negative = false ∧ price.scale = 0 := by
  unfold gasPrice at found
  obtain ⟨product, scaled, truncated⟩ := Checked.bind_eq_ok.1 found
  cases truncated
  have sign : product.negative = false :=
    Decimal.mul?_nonnegative nonnegative rfl (orOverflow_eq_ok.1 scaled)
  exact ⟨sign, rfl⟩

theorem transferCost_holds {rate price : Decimal} {cost : Amount}
    (nonnegative : 0 ≤ rate.signed) (priced : gasPrice rate = .ok price)
    (found : x.transferCost rate = .ok cost) :
    price.coefficient * x.gasLimit.toNat < 2 ^ 96 ∧ cost.currency = x.currency ∧
      cost.Holds (price.coefficient * x.gasLimit.toNat) := by
  obtain ⟨positive, whole⟩ := gasPrice_whole nonnegative priced
  obtain ⟨_, again, found⟩ := Checked.bind_eq_ok.1 found
  cases priced.symm.trans again
  obtain ⟨wei, scaled, read⟩ := Checked.bind_eq_ok.1 found
  have scaled := orOverflow_eq_ok.1 scaled
  obtain ⟨scale, product⟩ := Decimal.mul?_whole whole rfl scaled
  have sign : wei.negative = false := by
    rw [Decimal.mul?_sign scaled, positive]
    rfl
  rw [Decimal.toText_whole sign scale, product] at read
  exact Amount.holds_of_ofMinorText read

theorem balance_eq (x : Evm) (account : String) :
    x.balance account = (do
      let wei ← x.held account
      Dialogue.ofChecked (Amount.ofMinorText x.currency (toString wei))) := by
  simp only [balance, held, bind_assoc]

theorem run_maximum_eq_ok {account : String} {rate : Decimal} {m : Amount} :
    (x.maximum account rate).run oracle s = (.ok m, t) ↔
      ∃ (wei : Nat) (balance cost : Amount), (x.held account).run oracle s = (.ok wei, t) ∧
        Amount.ofMinorText x.currency (toString wei) = .ok balance ∧
        x.transferCost rate = .ok cost ∧ balance.remainder cost = .ok m := by
  simp only [maximum, balance_eq, Dialogue.run_bind_eq_ok, Dialogue.run_liftM,
    Dialogue.run_ofChecked, Prod.mk.injEq]
  constructor
  · rintro ⟨balance, _, ⟨wei, _, known, read, rfl⟩, cost, _, ⟨priced, rfl⟩, rest, rfl⟩
    exact ⟨wei, balance, cost, known, read, priced, rest⟩
  · rintro ⟨wei, balance, cost, known, read, priced, rest⟩
    exact ⟨balance, t, ⟨wei, t, known, read, rfl⟩, cost, t, ⟨priced, rfl⟩, rest, rfl⟩

theorem maximum_holds {account : String} {rate : Decimal} {m : Amount}
    (nonnegative : 0 ≤ rate.signed) (found : (x.maximum account rate).run oracle s = (.ok m, t))
    (positive : m.isPositive = true) :
    ∃ (wei : Nat) (price : Decimal), (x.held account).run oracle s = (.ok wei, t) ∧
      gasPrice rate = .ok price ∧ price.coefficient * x.gasLimit.toNat < wei ∧
      m.currency = x.currency ∧ m.minor = .ok (wei - price.coefficient * x.gasLimit.toNat) := by
  obtain ⟨wei, balance, cost, known, read, priced, rest⟩ := run_maximum_eq_ok.1 found
  obtain ⟨price, rated, -⟩ := Checked.bind_eq_ok.1 priced
  obtain ⟨weiFits, balanceCurrency, balanceHolds⟩ := Amount.holds_of_ofMinorText read
  obtain ⟨costFits, -, costHolds⟩ := transferCost_holds nonnegative rated priced
  obtain ⟨lt, currency, holds⟩ :=
    Amount.remainder_positive balanceHolds costHolds weiFits costFits rest positive
  refine ⟨wei, price, known, rated, lt, currency.trans balanceCurrency, ?_⟩
  exact Amount.minor_of_whole holds (by omega)

theorem run_build_eq_ok {transfer : Transfer} {tx : EvmTransaction} :
    (x.build transfer).run oracle s = (.ok tx, t) ↔
      transfer.amount.currency = x.currency ∧
        ∃ (destination : String) (nonce value : Nat) (price : Decimal),
          x.address transfer.destination = .ok destination ∧
          (x.sent transfer.source).run oracle s = (.ok nonce, t) ∧ nonce < 2 ^ 64 ∧
          transfer.amount.minor = .ok value ∧ gasPrice transfer.rate = .ok price ∧
          tx =
            { currency := x.currency
              chainId := x.chainId
              sender := transfer.source
              recipient := transfer.destination
              valueWei := toString value
              nonce := .ofNat nonce
              gasLimit := x.gasLimit
              gasPriceWei := price.toText } := by
  unfold build
  split
  next other => simp [other]
  next same =>
    simp only [sent, Dialogue.run_bind_eq_ok, Dialogue.run_liftM, Dialogue.run_pure,
      Prod.mk.injEq, Except.ok.injEq, orOverflow_eq_ok]
    constructor
    · rintro ⟨source, _, ⟨read, rfl⟩, destination, _, ⟨reached, rfl⟩, nonce, _, counted, value, _,
        ⟨whole, rfl⟩, word, _, ⟨small, rfl⟩, price, _, ⟨priced, rfl⟩, rfl, rfl⟩
      split at small
      next inRange =>
        cases small
        exact ⟨Decidable.not_not.1 same, destination, nonce, value, price, reached,
          ⟨source, _, ⟨read, rfl⟩, counted⟩, inRange, whole, priced, rfl⟩
      next => cases small
    · rintro ⟨-, destination, nonce, value, price, reached, ⟨source, _, ⟨read, rfl⟩, counted⟩,
        inRange, whole, priced, rfl⟩
      exact ⟨source, _, ⟨read, rfl⟩, destination, _, ⟨reached, rfl⟩, nonce, _, counted, value, _,
        ⟨whole, rfl⟩, .ofNat nonce, _, ⟨if_pos inRange, rfl⟩, price, _, ⟨priced, rfl⟩, rfl, rfl⟩

def payment (x : Evm) (signer : Signer) : Payment :=
  { chain := .evm x.currency x.url x.gasLimit, signer }

theorem run_payment_build_eq_ok {signer : Signer} {amount : Amount} {sender : Sender}
    {destination : String} {memo : Option String} {schedule : FeeSchedule} {type : FeeType}
    {tx : UnsignedTransaction} :
    ((x.payment signer).build amount sender destination memo schedule type).run oracle s =
        (.ok tx, t) ↔
      ∃ e, (x.build { source := sender.address, destination, amount,
                      rate := schedule.rate type, memo }).run oracle s = (.ok e, t) ∧
        tx = .evm { e with gasLimit := schedule.gasLimit.getD e.gasLimit } := by
  simp only [payment, Payment.build, ChainClient.build, Dialogue.run_bind_eq_ok,
    Dialogue.run_map_eq_ok, Dialogue.run_pure, Prod.mk.injEq, Except.ok.injEq]
  constructor
  · rintro ⟨_, _, ⟨e, built, rfl⟩, rfl, rfl⟩
    exact ⟨e, built, rfl⟩
  · rintro ⟨e, built, rfl⟩
    exact ⟨_, _, ⟨e, built, rfl⟩, rfl, rfl⟩

theorem spending_le_iff {wei price own limit : Nat} (lt : price * own < wei) :
    wei - price * own + limit * price ≤ wei ↔ limit ≤ own ∨ price = 0 := by
  rcases Nat.eq_zero_or_pos price with rfl | positive
  · simp
  · have fees : price * limit ≤ price * own ↔ limit ≤ own := Nat.mul_le_mul_left_iff positive
    rw [Nat.mul_comm limit, ← fees]
    omega

/-- What a transaction for the most that can be moved takes is covered by the account, exactly where
the schedule does not raise the gas limit or gas costs nothing. -/
theorem capacity_affordable_iff (x : Evm) (signer : Signer) (sender : Sender)
    (schedule : FeeSchedule) (type : FeeType) (oracle : Oracle) (s t : Session) (m : Amount)
    (nonnegative : 0 ≤ (schedule.rate type).signed)
    (capacity : ((x.payment signer).maximum sender schedule type).run oracle s = (.ok m, t))
    (positive : m.isPositive = true) :
    ∃ (wei : Nat) (price : Decimal), (x.held sender.address).run oracle s = (.ok wei, t) ∧
      gasPrice (schedule.rate type) = .ok price ∧
      ∀ (destination : String) (memo : Option String) (later : Oracle) (u v : Session),
        (∀ (tx : UnsignedTransaction),
          ((x.payment signer).build m sender destination memo schedule type).run later u =
            (.ok tx, v) →
          ∃ (e : EvmTransaction) (outlay : Nat), tx = .evm e ∧ e.outlay? = some outlay ∧
            (outlay ≤ wei ↔
              schedule.gasLimit.getD x.gasLimit ≤ x.gasLimit ∨ price.isZero = true)) ∧
        (∀ (read : String) (nonce : Nat), x.address destination = .ok read →
          (x.sent sender.address).run later u = (.ok nonce, v) → nonce < 2 ^ 64 →
          ∃ tx, ((x.payment signer).build m sender destination memo schedule type).run later u =
            (.ok tx, v)) := by
  obtain ⟨wei, price, known, priced, lt, currency, minor⟩ :=
    maximum_holds (x := x) nonnegative capacity positive
  refine ⟨wei, price, known, priced, ?_⟩
  intro destination memo later u v
  constructor
  · intro tx built
    obtain ⟨e, plain, rfl⟩ := run_payment_build_eq_ok.1 built
    obtain ⟨-, _, nonce, value, _, -, -, -, whole, again, rfl⟩ := run_build_eq_ok.1 plain
    cases minor.symm.trans whole
    cases priced.symm.trans again
    obtain ⟨sign, scale⟩ := gasPrice_whole nonnegative priced
    refine ⟨_, _, rfl,
      EvmTransaction.outlay?_eq_some rfl (Decimal.toText_whole sign scale), ?_⟩
    rw [spending_le_iff lt, UInt64.le_iff_toNat_le, Decimal.isZero, beq_iff_eq]
  · intro read nonce reached counted inRange
    exact ⟨_, run_payment_build_eq_ok.2 ⟨_, run_build_eq_ok.2
      ⟨currency, read, nonce, _, price, reached, counted, inRange, minor, priced, rfl⟩, rfl⟩⟩

def node : Evm := { currency := .eth, url := "http://n", gasLimit := 21000 }

def holder : Sender :=
  { currency := .eth, label := "mine", address := "0x00000000000000000000000000000000000000aa" }

def tenGwei : Decimal := .ofNat 10 (by decide)

def tenGweiSchedule (gasLimit : Option UInt64) : FeeSchedule :=
  { currency := .eth, regular := tenGwei, priority := tenGwei, limits := none, gasLimit }

def oneEther : Oracle :=
  .bodies
    ["\x7b\"jsonrpc\":\"2.0\",\"id\":1,\"result\":\"0xde0b6b3a7640000\"\x7d",
     "\x7b\"jsonrpc\":\"2.0\",\"id\":1,\"result\":\"0x5\"\x7d"]

def asked (method : String) : Call :=
  .http (Http.postJson node.url none
    (JsonRpc.request method (.array [.string holder.address, .string "latest"])))

def afterBalance : Session := { Session.empty with calls := [asked "eth_getBalance"] }

def afterCount : Session :=
  { Session.empty with calls := [asked "eth_getBalance", asked "eth_getTransactionCount"] }

def movable : Amount :=
  { currency := .eth, value := { negative := false, coefficient := 99979, scale := 5 } }

theorem node_permitted : Http.refusal? node.url = none := by decide +kernel

theorem address_holder : node.address holder.address = .ok holder.address := rfl

theorem run_held_holder :
    (node.held holder.address).run oneEther .empty = (.ok 1000000000000000000, afterBalance) := by
  rw [held, Dialogue.run_bind_ok (by rw [Dialogue.run_liftM, address_holder])]
  exact JsonRpc.run_call_ok node_permitted rfl rfl rfl

theorem run_sent_holder :
    (node.sent holder.address).run oneEther afterBalance = (.ok 5, afterCount) := by
  rw [sent, Dialogue.run_bind_ok (by rw [Dialogue.run_liftM, address_holder])]
  exact JsonRpc.run_call_ok node_permitted rfl rfl rfl

theorem run_maximum_holder (gasLimit : Option UInt64) :
    ((node.payment .external).maximum holder (tenGweiSchedule gasLimit) .regular).run oneEther
      .empty = (.ok movable, afterBalance) := by
  have read : Amount.ofMinorText .eth (toString 1000000000000000000) =
      .ok { currency := .eth, value := { negative := false, coefficient := 1, scale := 0 } } := rfl
  have cost : node.transferCost tenGwei =
      .ok { currency := .eth, value := { negative := false, coefficient := 21, scale := 5 } } := rfl
  exact run_maximum_eq_ok.2 ⟨_, _, _, run_held_holder, read, cost, rfl⟩

theorem run_build_holder (gasLimit : Option UInt64) :
    ∃ tx, ((node.payment .external).build movable holder holder.address none
        (tenGweiSchedule gasLimit) .regular).run oneEther afterBalance = (.ok (.evm tx), afterCount) ∧
      tx.outlay? = some (999790000000000000 + (gasLimit.getD 21000).toNat * 10000000000) := by
  have value : movable.minor = .ok 999790000000000000 := rfl
  have price : gasPrice tenGwei = .ok (.ofNat 10000000000 (by decide)) := rfl
  have built : (node.build { source := holder.address, destination := holder.address,
                             amount := movable, rate := tenGwei, memo := none }).run oneEther
      afterBalance = (.ok _, _) :=
    run_build_eq_ok.2
      ⟨rfl, _, 5, _, _, address_holder, run_sent_holder, by decide, value, price, rfl⟩
  exact ⟨_, run_payment_build_eq_ok.2 ⟨_, built, rfl⟩,
    EvmTransaction.outlay?_eq_some rfl (Decimal.toText_whole rfl rfl)⟩

theorem capacity_affordable_iff_holder :
    0 ≤ ((tenGweiSchedule none).rate .regular).signed ∧ movable.isPositive = true ∧
      ((node.payment .external).maximum holder (tenGweiSchedule none) .regular).run oneEther
        .empty = (.ok movable, afterBalance) ∧
      ∃ (tx : EvmTransaction) (outlay : Nat),
        ((node.payment .external).build movable holder holder.address none (tenGweiSchedule none)
          .regular).run oneEther afterBalance = (.ok (.evm tx), afterCount) ∧
        tx.outlay? = some outlay ∧ outlay ≤ 1000000000000000000 := by
  refine ⟨by decide, by decide, run_maximum_holder none, ?_⟩
  obtain ⟨wei, price, known, -, transfers⟩ :=
    capacity_affordable_iff node .external holder (tenGweiSchedule none) .regular oneEther .empty
      afterBalance movable (by decide) (run_maximum_holder none) (by decide)
  cases run_held_holder.symm.trans known
  obtain ⟨tx, built, -⟩ := run_build_holder none
  obtain ⟨_, outlay, ⟨⟩, spent, covered⟩ := (transfers _ _ _ _ _).1 _ built
  exact ⟨tx, outlay, built, spent, covered.2 (.inl (UInt64.le_refl _))⟩

-- The schedule's gas limit stands above the chain's own here, and the account cannot pay.
theorem capacity_overdrawn :
    (node.held holder.address).run oneEther .empty = (.ok 1000000000000000000, afterBalance) ∧
      ((node.payment .external).maximum holder (tenGweiSchedule (some 50000)) .regular).run oneEther
        .empty = (.ok movable, afterBalance) ∧ movable.isPositive = true ∧
      ∃ (tx : EvmTransaction) (outlay : Nat),
        ((node.payment .external).build movable holder holder.address none
          (tenGweiSchedule (some 50000)) .regular).run oneEther afterBalance =
            (.ok (.evm tx), afterCount) ∧
        tx.outlay? = some outlay ∧ 1000000000000000000 < outlay := by
  obtain ⟨tx, built, spent⟩ := run_build_holder (some 50000)
  exact ⟨run_held_holder, run_maximum_holder _, by decide, tx, _, built, spent, by decide⟩

end Evm

end MultiWallet
