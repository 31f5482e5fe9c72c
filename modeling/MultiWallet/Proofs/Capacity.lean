import MultiWallet.Proofs.Chain.Capacity
import MultiWallet.Proofs.Engine

set_option autoImplicit false

namespace MultiWallet

open Dialogue

theorem CryptoAccount.sender_currency {a : CryptoAccount} {sender : Sender} {oracle : Oracle}
    {s t : Session} (found : a.sender.run oracle s = (.ok sender, t)) :
    sender.currency = a.currency := by
  obtain ⟨_, _, -, last⟩ := run_bind_eq_ok.1 found
  cases last
  rfl

theorem MeteredPayment.run_maximum_cases {x : MeteredPayment} {sender : Sender} {oracle : Oracle}
    {s t : Session} {m : Amount} (found : (x.maximum sender).run oracle s = (.ok m, t)) :
    (∃ cause u, (x.tryMaximum sender).run oracle s = (.error (.failure cause), u) ∧
      m = .zero sender.currency) ∨ (x.tryMaximum sender).run oracle s = (.ok m, t) := by
  rcases tried : (x.tryMaximum sender).run oracle s with ⟨halt | a, u⟩
  · cases halt with
    | failure cause =>
      rw [maximum, run_bind_ok (run_attempt_failure tried)] at found
      obtain ⟨_, _, -, found⟩ := run_bind_eq_ok.1 found
      cases found
      exact .inl ⟨cause, u, rfl, rfl⟩
    | overflow =>
      rw [maximum, run_bind, run_attempt_overflow tried] at found
      cases found
  · rw [maximum, run_bind_ok (run_attempt_ok tried)] at found
    cases found
    exact .inr rfl

def Quoted (source : CryptoAccount) (fees : FeeSource) (currency : Currency) (oracle : Oracle)
    (s t : Session) (sender : Sender) (schedule : FeeSchedule) : Prop :=
  ∃ u, source.sender.run oracle s = (.ok sender, u) ∧
    (fees.schedule currency).run oracle u = (.ok schedule, t)

namespace Engine

inductive Pays (p : Payment) (source : CryptoAccount) (fees : FeeSource) :
    Currency → Engine → Prop where
  | onChain (target : Target) (reporter : Reporter) (preference : Option Int) :
      Pays p source fees source.currency
        (.onChain { source, target, payment := p, fees, reporter, preference })
  | stellar (target : Target) (preference : Option Int) :
      Pays p source fees .xlm (.stellar { source, target, payment := p, fees, preference })

inductive Direct : Engine → Prop where
  | payment {engine : Engine} {p : Payment} {source : CryptoAccount} {fees : FeeSource}
      {currency : Currency} (pays : engine.Pays p source fees currency) (own : p.chain.Own) :
      Direct engine
  | withdrawal (w : Withdrawal) : Direct (.withdrawal w)

/-- How the most that an engine can move was found out, and where it stands above what the upstream
reports to be there. On a chain it may be nothing, where the rates or the funds are not known. -/
inductive Capacity (level : FeeLevel) (oracle : Oracle) (s t : Session) (m : Amount) :
    Engine → Prop where
  | unknown (x : OnChainTransfer) (sender : Sender) (cause : Failure) (u v : Session)
      (resolving : x.source.sender.run oracle s = (.ok sender, u))
      (failed : ((x.metered level).tryMaximum sender).run oracle u = (.error (.failure cause), v))
      (nothing : m = .zero x.source.currency) : Capacity level oracle s t m (.onChain x)
  | payment {engine : Engine} {p : Payment} {source : CryptoAccount} {fees : FeeSource}
      {currency : Currency} (pays : engine.Pays p source fees currency) (sender : Sender)
      (schedule : FeeSchedule) (priced : Session) (funds : ℚ)
      (quoted : Quoted source fees currency oracle s priced sender schedule)
      (reported : (p.chain.funds sender.address).run oracle priced = (.ok funds, t))
      (same : m.currency = p.chain.currency)
      (excess : max funds 0 < m.value.toRat ↔ p.chain.Refunds (schedule.rate level.type) none) :
      Capacity level oracle s t m engine
  | withdrawal (w : Withdrawal) (balance fee : Decimal) (u : Session)
      (reported : (w.custodian.tradingBalance w.source.currency).run oracle s = (.ok balance, u))
      (charged : (w.custodian.withdrawalFee w.source.currency).run oracle u = (.ok fee, t))
      (same : m.currency = w.source.currency)
      (excess : max balance.toRat 0 < m.value.toRat → fee.toRat < 0)
      (exact : ∀ rest : Decimal, rest.toRat = balance.toRat - fee.toRat →
        m.value.toRat = max rest.toRat 0) :
      Capacity level oracle s t m (.withdrawal w)

variable {engine : Engine} {p : Payment} {source : CryptoAccount} {fees : FeeSource}
  {currency : Currency} {level : FeeLevel} {oracle : Oracle} {s t : Session} {m : Amount}

theorem Pays.payment? (pays : engine.Pays p source fees currency) : engine.payment? = some p := by
  cases pays <;> rfl

theorem Pays.capacity (pays : engine.Pays p source fees currency) (own : p.chain.Own)
    (found : (engine.maximum level).run oracle s = (.ok m, t)) :
    0 ≤ m.value.toRat ∧ engine.Capacity level oracle s t m := by
  have reckoned {sender : Sender} {schedule : FeeSchedule} {priced : Session}
      (quoted : Quoted source fees currency oracle s priced sender schedule)
      (found : (p.maximum sender schedule level.type).run oracle priced = (.ok m, t)) :
      0 ≤ m.value.toRat ∧ engine.Capacity level oracle s t m := by
    obtain ⟨funds, reported, same, least, excess⟩ :=
      ChainClient.funds_lt_maximum_iff own found
    exact ⟨least, .payment pays sender schedule priced funds quoted reported same excess⟩
  cases pays with
  | onChain target reporter preference =>
    obtain ⟨sender, u, resolving, found⟩ := run_bind_eq_ok.1 found
    have same := CryptoAccount.sender_currency resolving
    obtain ⟨cause, v, failed, nothing⟩ | tried := MeteredPayment.run_maximum_cases found
    · rw [same] at nothing
      refine ⟨?_, .unknown _ sender cause u v resolving failed nothing⟩
      rw [nothing]
      exact Decimal.toRat_zero.ge
    · obtain ⟨schedule, priced, pricing, found⟩ := run_bind_eq_ok.1 tried
      exact reckoned ⟨u, resolving, same ▸ pricing⟩ found
  | stellar target preference =>
    obtain ⟨sender, u, resolving, found⟩ := run_bind_eq_ok.1 found
    obtain ⟨schedule, priced, pricing, found⟩ := run_bind_eq_ok.1 found
    exact reckoned ⟨u, resolving, pricing⟩ found

theorem Pays.run_maximum (pays : engine.Pays p source fees currency) {sender : Sender}
    {schedule : FeeSchedule} {priced : Session}
    (quoted : Quoted source fees currency oracle s priced sender schedule)
    (reckoned : (p.maximum sender schedule level.type).run oracle priced = (.ok m, t)) :
    (engine.maximum level).run oracle s = (.ok m, t) := by
  obtain ⟨u, resolving, pricing⟩ := quoted
  cases pays with
  | onChain target reporter preference =>
    rw [← CryptoAccount.sender_currency resolving] at pricing
    refine run_bind_eq_ok.2
      ⟨sender, u, resolving, run_bind_eq_ok.2 ⟨.ok m, t, run_attempt_ok ?_, rfl⟩⟩
    exact run_bind_eq_ok.2 ⟨schedule, priced, pricing, reckoned⟩
  | stellar target preference =>
    exact run_bind_eq_ok.2
      ⟨sender, u, resolving, run_bind_eq_ok.2 ⟨schedule, priced, pricing, reckoned⟩⟩

theorem withdrawal_capacity {w : Withdrawal}
    (found : w.maximum.run oracle s = (.ok m, t)) :
    0 ≤ m.value.toRat ∧ (Engine.withdrawal w).Capacity level oracle s t m := by
  obtain ⟨balance, u, reported, found⟩ := run_bind_eq_ok.1 found
  obtain ⟨fee, v, charged, found⟩ := run_bind_eq_ok.1 found
  obtain ⟨left, rfl⟩ : Amount.remainder { currency := w.source.currency, value := balance }
      { currency := w.source.currency, value := fee } = .ok m ∧ v = t := by simpa using found
  obtain ⟨d, difference, same, value⟩ := Amount.remainder_eq left
  refine ⟨Amount.remainder_nonneg left, .withdrawal w balance fee u reported charged same ?_ ?_⟩
  · intro more
    by_contra paid
    have most := Amount.remainder_le left (not_lt.1 paid)
    exact most.not_gt more
  · intro rest whole
    obtain ⟨e, again, exact⟩ := Decimal.sub?_exact whole
    cases difference.symm.trans again
    rw [value, exact, whole]

/-- A fee is negative exactly where gas has a negative price, or the custodian says so; and the most
that can be moved stands above what is there only where a fee would be negative. -/
theorem cost_bounds (engine : Engine) (kind : engine.Direct) (level : FeeLevel) (oracle : Oracle)
    (s t : Session) :
    (∀ (p : Payment) (amount fee : Amount) (sender : Sender) (destination : String)
        (memo : Option String) (schedule : FeeSchedule) (type : FeeType) (tx : UnsignedTransaction),
      engine.payment? = some p →
      (p.build amount sender destination memo schedule type).run oracle s = (.ok tx, t) →
      tx.fee = .ok fee →
      fee.currency = p.chain.currency ∧
        (fee.value.toRat < 0 ↔ p.chain.Refunds (schedule.rate type) schedule.gasLimit)) ∧
    (∀ (w : Withdrawal) (amount fee : Amount), engine = .withdrawal w →
      (engine.fee amount level).run oracle s = (.ok fee, t) →
      fee.currency = w.source.currency ∧
        (w.custodian.withdrawalFee w.source.currency).run oracle s = (.ok fee.value, t)) ∧
    (∀ m : Amount, (engine.maximum level).run oracle s = (.ok m, t) →
      0 ≤ m.value.toRat ∧ engine.Capacity level oracle s t m) := by
  cases kind with
  | payment pays own =>
    refine ⟨?_, ?_, fun m => pays.capacity own⟩
    · intro p amount fee sender destination memo schedule type tx carries built charged
      cases pays.payment?.symm.trans carries
      exact Payment.fee_neg_iff own built charged
    · rintro w amount fee rfl
      cases pays
  | withdrawal w =>
    refine ⟨?_, ?_, fun m => withdrawal_capacity⟩
    · rintro p amount fee sender destination memo schedule type tx ⟨⟩
    · rintro _ amount fee ⟨⟩ found
      obtain ⟨value, _, charged, last⟩ := run_bind_eq_ok.1 found
      cases last
      exact ⟨rfl, charged⟩

section Ether

open Evm

def etherAccount : CryptoAccount :=
  { id := 1, label := "mine", currency := .eth, custody := .nonCustodial
    permissions := .nonCustodial, backend := .addressOnly holder.address }

def etherPayment : Engine :=
  .onChain { source := etherAccount, target := .address (.of .eth holder.address)
             payment := node.payment .external, fees := .external, reporter := .external
             preference := none }

theorem etherPayment_pays :
    etherPayment.Pays (node.payment .external) etherAccount .external .eth :=
  .onChain _ _ _

def etherSchedule (rate : Decimal) : FeeSchedule := { tenGweiSchedule none with regular := rate }

-- One is asked for the rates first, and then for the account of the holder.
def etherAt (rate : Decimal) : Oracle
  | _, .feeSchedule _ => .ok (etherSchedule rate)
  | calls, c => oneEther (calls.drop 1) c

def afterRates : Session := { Session.empty with calls := [.feeSchedule .eth] }

def afterFunds : Session :=
  { Session.empty with calls := [.feeSchedule .eth, asked "eth_getBalance"] }

def afterNonce : Session :=
  { Session.empty with
    calls := [.feeSchedule .eth, asked "eth_getBalance", asked "eth_getTransactionCount"] }

theorem quoted_etherAt (rate : Decimal) :
    Quoted etherAccount .external .eth (etherAt rate) .empty afterRates holder
      (etherSchedule rate) := ⟨.empty, rfl, rfl⟩

theorem run_held_etherAt (rate : Decimal) :
    (node.held holder.address).run (etherAt rate) afterRates =
      (.ok 1000000000000000000, afterFunds) := by
  rw [held, run_bind_ok (by rw [run_liftM, address_holder])]
  exact JsonRpc.run_call_ok node_permitted rfl rfl rfl

theorem run_sent_etherAt (rate : Decimal) :
    (node.sent holder.address).run (etherAt rate) afterFunds = (.ok 5, afterNonce) := by
  rw [sent, run_bind_ok (by rw [run_liftM, address_holder])]
  exact JsonRpc.run_call_ok node_permitted rfl rfl rfl

theorem run_maximum_etherAt {rate : Decimal} {cost m : Amount}
    (priced : node.transferCost rate = .ok cost)
    (left : Amount.remainder { currency := .eth, value := .ofUInt64 1 } cost = .ok m) :
    (etherPayment.maximum .regular).run (etherAt rate) .empty = (.ok m, afterFunds) := by
  have read : Amount.ofMinorText .eth (toString 1000000000000000000) =
      .ok { currency := .eth, value := .ofUInt64 1 } := rfl
  have reckoned : ((node.payment .external).maximum holder (etherSchedule rate) .regular).run
      (etherAt rate) afterRates = (.ok m, afterFunds) :=
    run_maximum_eq_ok.2 ⟨_, _, _, run_held_etherAt rate, read, priced, left⟩
  exact etherPayment_pays.run_maximum (quoted_etherAt rate) reckoned

theorem run_build_etherAt {rate price : Decimal} {cost : Amount}
    (priced : gasPrice rate = .ok price) (charged : node.transferCost rate = .ok cost)
    (readBack : Decimal.ofString price.toText = .ok price) :
    ∃ tx, ((node.payment .external).build movable holder holder.address none (etherSchedule rate)
        .regular).run (etherAt rate) afterFunds = (.ok tx, afterNonce) ∧ tx.fee = .ok cost := by
  have value : movable.minor = .ok 999790000000000000 := rfl
  have built : (node.build { source := holder.address, destination := holder.address,
                             amount := movable, rate, memo := none }).run (etherAt rate)
      afterFunds = (.ok _, _) :=
    run_build_eq_ok.2
      ⟨rfl, _, 5, _, _, address_holder, run_sent_etherAt rate, by decide, value, priced, rfl⟩
  refine ⟨_, run_payment_build_eq_ok.2 ⟨_, built, rfl⟩, ?_⟩
  rw [transferCost, priced] at charged
  simp only [UnsignedTransaction.fee, EvmTransaction.fee, readBack]
  exact charged

theorem cost_bounds_etherAt :
    etherPayment.Direct ∧
      (∃ (tx : UnsignedTransaction) (fee : Amount),
        ((node.payment .external).build movable holder holder.address none (etherSchedule tenGwei)
          .regular).run (etherAt tenGwei) afterFunds = (.ok tx, afterNonce) ∧
        tx.fee = .ok fee ∧ 0 ≤ fee.value.toRat) ∧
      (etherPayment.maximum .regular).run (etherAt tenGwei) .empty = (.ok movable, afterFunds) ∧
      ∃ funds, ((node.payment .external).chain.funds holder.address).run (etherAt tenGwei)
        afterRates = (.ok funds, afterFunds) ∧ movable.value.toRat ≤ max funds 0 := by
  have kind : etherPayment.Direct := .payment etherPayment_pays trivial
  have price : gasPrice tenGwei = .ok (.ofNat 10000000000 (by decide)) := rfl
  have cost : node.transferCost tenGwei =
      .ok { currency := .eth, value := { negative := false, coefficient := 21, scale := 5 } } := rfl
  have ordinary (limit : Option UInt64) :
      ¬ (node.payment .external).chain.Refunds tenGwei limit := by
    rintro ⟨below, -⟩
    norm_num [tenGwei] at below
  obtain ⟨tx, built, charged⟩ := run_build_etherAt price cost rfl
  have capacity := run_maximum_etherAt cost rfl
  refine ⟨kind, ⟨tx, _, built, charged, ?_⟩, capacity, ?_⟩
  · obtain ⟨fees, -⟩ :=
      cost_bounds etherPayment kind .regular (etherAt tenGwei) afterFunds afterNonce
    exact not_lt.1 fun below =>
      ordinary none ((fees _ _ _ _ _ _ _ _ _ rfl built charged).2.1 below)
  · obtain ⟨-, -, bounds⟩ :=
      cost_bounds etherPayment kind .regular (etherAt tenGwei) .empty afterFunds
    obtain ⟨-, reckoned⟩ := bounds _ capacity
    cases reckoned with
    | unknown x sender cause u v resolving failed nothing => cases nothing
    | payment pays sender schedule priced funds quoted reported same excess =>
      cases pays
      obtain ⟨_, ⟨⟩, ⟨⟩⟩ := quoted
      exact ⟨funds, reported, not_lt.1 fun above => ordinary none (excess.1 above)⟩

def minusTenGwei : Decimal := tenGwei.neg

def aboveOneEther : Amount := .ofMinor .eth 1000210000000000000

def etherWithdrawal : Withdrawal :=
  { source := { etherAccount with custody := .custodial, backend := .trading .external }
    target := .address (.of .eth holder.address), custodian := .external }

-- The custodian holds one unit, and names a fee of minus one.
def payingBack : Oracle
  | _, .tradingBalance _ => .ok (.ofUInt64 1)
  | _, .withdrawalFee _ => .ok (Decimal.ofUInt64 1).neg
  | _, c => c.refused

-- Gas of a negative price makes the fee negative, and more can be moved than the account holds; the
-- same goes for a negative fee of the custodian.
theorem refund_exceeds :
    (∃ (tx : UnsignedTransaction) (fee : Amount),
        ((node.payment .external).build movable holder holder.address none
          (etherSchedule minusTenGwei) .regular).run (etherAt minusTenGwei) afterFunds =
            (.ok tx, afterNonce) ∧
        tx.fee = .ok fee ∧ fee.value.toRat < 0) ∧
      (etherPayment.maximum .regular).run (etherAt minusTenGwei) .empty =
        (.ok aboveOneEther, afterFunds) ∧
      (node.held holder.address).run (etherAt minusTenGwei) afterRates =
        (.ok 1000000000000000000, afterFunds) ∧
      1000000000000000000 < aboveOneEther.units ∧
      ∃ (balance fee m : Decimal) (t u v : Session),
        ((Engine.withdrawal etherWithdrawal).fee movable .none).run payingBack .empty =
          (.ok { currency := .eth, value := fee }, t) ∧ fee.toRat < 0 ∧
        ((Engine.withdrawal etherWithdrawal).maximum .none).run payingBack .empty =
          (.ok { currency := .eth, value := m }, u) ∧
        (Custodian.external.tradingBalance .eth).run payingBack .empty = (.ok balance, v) ∧
        balance.toRat < m.toRat := by
  have price : gasPrice minusTenGwei =
      .ok { negative := true, coefficient := 10000000000, scale := 0 } := rfl
  have cost : node.transferCost minusTenGwei =
      .ok { currency := .eth, value := { negative := true, coefficient := 21, scale := 5 } } := rfl
  have one : (1 : UInt64).toNat = 1 := rfl
  have two : (2 : UInt64).toNat = 2 := rfl
  have wei : (1000210000000000000 : UInt64).toNat = 1000210000000000000 := rfl
  obtain ⟨tx, built, charged⟩ := run_build_etherAt price cost rfl
  refine ⟨⟨tx, _, built, charged, ?_⟩, run_maximum_etherAt cost rfl, run_held_etherAt _, ?_,
    .ofUInt64 1, (Decimal.ofUInt64 1).neg, .ofUInt64 2, _, _, _, rfl, ?_, rfl, rfl, ?_⟩
  · norm_num [Decimal.toRat, Decimal.ratio]
  · rw [Amount.units, aboveOneEther, Amount.toRat_ofMinor, wei, Amount.ofMinor]
    norm_num
  · norm_num [Decimal.toRat_neg, one]
  · norm_num [one, two]

end Ether

end Engine

end MultiWallet
