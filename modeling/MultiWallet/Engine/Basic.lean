import MultiWallet.Engine.Payment

/-!
Engines carry a transfer out: on a chain, on the Stellar ledger, as a withdrawal from the custodial
backend, or as an order placed with it. Each checks its inputs before it does anything.
-/

set_option autoImplicit false

namespace MultiWallet

def chainAddress (source : CryptoAccount) : Target → Checked Address
  | .account _ => fail (.contractViolation "on-chain transfer target must be an address")
  | .address address =>
    if (Text.trim address.text.toList).isEmpty then
      fail (.contractViolation "target address is empty")
    else if address.currency ≠ source.currency then
      fail (.contractViolation
        ("target address is " ++ address.currency.ticker ++ " but source is " ++
          source.currency.ticker))
    else .ok address

structure OnChainTransfer where
  source : CryptoAccount
  target : Target
  payment : Payment
  fees : FeeSource
  reporter : Reporter
  preference : Option Int
deriving DecidableEq, Repr

namespace OnChainTransfer

def metered (t : OnChainTransfer) (level : FeeLevel) : MeteredPayment :=
  { payment := t.payment, fees := t.fees, type := level.type, reporter := t.reporter }

def fee (t : OnChainTransfer) (amount : Amount) (level : FeeLevel) : Dialogue Amount := do
  let address ← chainAddress t.source t.target
  let sender ← t.source.sender
  (t.metered level).fee amount sender address.text

def maximum (t : OnChainTransfer) (level : FeeLevel) : Dialogue Amount := do
  let sender ← t.source.sender
  (t.metered level).maximum sender

def execute (t : OnChainTransfer) (amount : Amount) (level : FeeLevel) : Dialogue String := do
  let address ← chainAddress t.source t.target
  let sender ← t.source.sender
  (t.metered level).execute amount sender address.text address.memo

end OnChainTransfer

structure StellarTransfer where
  source : CryptoAccount
  target : Target
  payment : Payment
  fees : FeeSource
  preference : Option Int
deriving DecidableEq, Repr

namespace StellarTransfer

def memoLimit : Nat := 28

def destination (t : StellarTransfer) : Checked Address := do
  let address ← chainAddress t.source t.target
  if address.currency ≠ .xlm then
    fail (.contractViolation ("Stellar engine used for " ++ address.currency.ticker))
  else if memoLimit < (address.memo.getD "").utf8ByteSize then
    fail (.contractViolation ("memo exceeds " ++ toString memoLimit ++ " bytes"))
  else return address

def fee (t : StellarTransfer) (amount : Amount) (level : FeeLevel) : Dialogue Amount := do
  let address ← t.destination
  let sender ← t.source.sender
  let schedule ← t.fees.schedule .xlm
  t.payment.fee amount sender address.text schedule level.type

def maximum (t : StellarTransfer) (level : FeeLevel) : Dialogue Amount := do
  let sender ← t.source.sender
  let schedule ← t.fees.schedule .xlm
  t.payment.maximum sender schedule level.type

def execute (t : StellarTransfer) (amount : Amount) (level : FeeLevel) : Dialogue String := do
  let address ← t.destination
  let sender ← t.source.sender
  let schedule ← t.fees.schedule .xlm
  t.payment.execute amount sender address.text address.memo schedule level.type

end StellarTransfer

structure Withdrawal where
  source : CryptoAccount
  target : Target
  custodian : Custodian
deriving DecidableEq, Repr

namespace Withdrawal

def validate (w : Withdrawal) : Checked Unit := do
  if !w.source.isCustodial then
    fail (.contractViolation "custodial withdrawal from a non-custodial account")
  else
    let _ ← chainAddress w.source w.target
    return ()

def fee (w : Withdrawal) : Dialogue Amount := do
  return { currency := w.source.currency, value := ← w.custodian.withdrawalFee w.source.currency }

def maximum (w : Withdrawal) : Dialogue Amount := do
  let currency := w.source.currency
  let balance ← w.custodian.tradingBalance currency
  let fee ← w.custodian.withdrawalFee currency
  Dialogue.ofChecked
    (Amount.remainder { currency, value := balance } { currency, value := fee })

def execute (w : Withdrawal) (amount : Amount) : Dialogue String := do
  let address ← chainAddress w.source w.target
  w.custodian.withdraw amount.currency address.text amount.value

end Withdrawal

structure Trade where
  source : CryptoAccount
  target : Account
  kind : OrderKind
  custodian : Custodian
deriving DecidableEq, Repr

namespace Trade

def proceeds (t : Trade) : Checked Proceeds :=
  let refused : Checked Proceeds :=
    fail (.contractViolation
      (t.kind.title ++ " order cannot target " ++ t.target.kind ++ " account " ++ t.target.label))
  match t.kind, t.target with
  | .sell, .fiat account => .ok (.fiat account.code)
  | .swap, .crypto account =>
    if account.currency = t.source.currency then refused else .ok (.crypto account.currency)
  | _, _ => refused

def order (t : Trade) (proceeds : Proceeds) (amount : Amount) (depositHash : Option String) :
    Order :=
  { kind := t.kind, source := t.source.currency, proceeds, amount := amount.value, depositHash }

end Trade

inductive Engine where
  | onChain (t : OnChainTransfer)
  | stellar (t : StellarTransfer)
  | withdrawal (w : Withdrawal)
  | trade (t : Trade)
  | fundedTrade (t : Trade) (deposit : Engine)
  | external (name : String) (level : FeeLevel)
deriving DecidableEq, Repr

namespace Engine

def validate : Engine → Dialogue Unit
  | onChain t => do
    let _ ← chainAddress t.source t.target
    return ()
  | stellar t => do
    let _ ← t.destination
    return ()
  | withdrawal w => Dialogue.ofChecked w.validate
  | trade t => do
    let _ ← t.proceeds
    if t.source.isCustodial then return ()
    else
      Dialogue.fail
        (.contractViolation "non-custodial order source needs a deposit transfer")
  | fundedTrade t deposit => do
    let _ ← t.proceeds
    deposit.validate
  | external name _ => do
    let answer : Answer Unit ← Dialogue.ask (.engineValidate name)
    Dialogue.ofAnswer answer

def defaultLevel : Engine → FeeLevel
  | onChain t => .ofPreference t.preference
  | stellar t => .ofPreference t.preference
  | withdrawal _ | trade _ => .none
  | fundedTrade _ deposit => deposit.defaultLevel
  | external _ level => level

def fee (engine : Engine) (amount : Amount) (level : FeeLevel) : Dialogue Amount :=
  match engine with
  | onChain t => t.fee amount level
  | stellar t => t.fee amount level
  | withdrawal w => w.fee
  | trade t => return .zero t.source.currency
  | fundedTrade _ deposit => deposit.fee amount level
  | external name _ => do
    let answer : Answer Amount ← Dialogue.ask (.engineFee name amount level)
    Dialogue.ofAnswer answer

def maximum (engine : Engine) (level : FeeLevel) : Dialogue Amount :=
  match engine with
  | onChain t => t.maximum level
  | stellar t => t.maximum level
  | withdrawal w => w.maximum
  | trade t => do
    let currency := t.source.currency
    return { currency, value := ← t.custodian.tradingBalance currency }
  | fundedTrade _ deposit => deposit.maximum level
  | external name _ => do
    let answer : Answer Amount ← Dialogue.ask (.engineMaximum name level)
    Dialogue.ofAnswer answer

def execute (engine : Engine) (amount : Amount) (level : FeeLevel) : Dialogue String :=
  match engine with
  | onChain t => t.execute amount level
  | stellar t => t.execute amount level
  | withdrawal w => w.execute amount
  | trade t => do
    let proceeds ← t.proceeds
    t.custodian.placeOrder (t.order proceeds amount none)
  | fundedTrade t deposit => do
    let proceeds ← t.proceeds
    let hash ← deposit.execute amount level
    t.custodian.placeOrder (t.order proceeds amount (some hash))
  | external name _ => do
    let answer : Answer String ← Dialogue.ask (.engineExecute name amount level)
    Dialogue.ofAnswer answer

end Engine

end MultiWallet
