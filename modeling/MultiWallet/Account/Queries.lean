import MultiWallet.Chain
import MultiWallet.Custodian

set_option autoImplicit false

namespace MultiWallet

namespace Backend

def receiveAddress (backend : Backend) (currency : Currency) : Dialogue String :=
  match backend with
  | onChain _ address => return address
  | trading custodian => custodian.depositAddress currency
  | addressOnly address => return address
  | external name => do
    let answer : Answer String ← Dialogue.ask (.accountAddress name)
    Dialogue.ofAnswer answer

def balance (backend : Backend) (currency : Currency) : Dialogue Decimal :=
  match backend with
  | onChain chain address => do return (← chain.balance address).value
  | trading custodian => custodian.tradingBalance currency
  | addressOnly _ => return .zero
  | external name => do
    let answer : Answer Decimal ← Dialogue.ask (.accountBalance name)
    Dialogue.ofAnswer answer

def toActivity (address : String) (entry : HistoryEntry) : MultiWallet.Activity :=
  { hash := entry.hash
    kind := entry.kind
    amount := entry.amount
    counterparty := if entry.recipient = some address then entry.sender else entry.recipient
    time := entry.time }

def activity : Backend → Dialogue (List MultiWallet.Activity)
  | onChain chain address => do
    return (← chain.history address).map (toActivity address)
  | trading _ => return []
  | addressOnly _ => return []
  | external name => do
    let answer : Answer (List MultiWallet.Activity) ← Dialogue.ask (.accountActivity name)
    Dialogue.ofAnswer answer

end Backend

namespace CryptoAccount

def permits (a : CryptoAccount) (action : Action) : Bool := a.permissions.permits action

def receiveAddress (a : CryptoAccount) : Dialogue Address := do
  return .of a.currency (← a.backend.receiveAddress a.currency)

def balance (a : CryptoAccount) : Dialogue Amount := do
  return { currency := a.currency, value := ← a.backend.balance a.currency }

def activity (a : CryptoAccount) : Dialogue (List MultiWallet.Activity) := a.backend.activity

end CryptoAccount

def InterestAccount.balance (a : InterestAccount) : Dialogue Amount := do
  let value := (← a.custodian.interestBalance a.currency).getD .zero
  return { currency := a.currency, value }

def FiatAccount.balance (a : FiatAccount) : Dialogue FiatAmount := do
  return { currency := a.code, value := ← a.custodian.fiatBalance a.code }

def Account.receiveAddress : Account → Dialogue Address
  | .crypto a => a.receiveAddress
  | .interest a =>
    Dialogue.fail
      (.unsupportedTransaction ("interest account '" ++ a.label ++ "' has no receive address"))
  | .fiat a =>
    Dialogue.fail
      (.unsupportedTransaction ("fiat account '" ++ a.label ++ "' has no receive address"))

def Account.cryptoBalance? : Account → Option (Dialogue Amount)
  | .crypto a => some a.balance
  | .interest a => some a.balance
  | .fiat _ => none

abbrev Totals := Currency → Option Decimal

namespace Totals

def empty : Totals := fun _ => none

def add (totals : Totals) (amount : Amount) : Checked Totals := do
  let sum ← orOverflow (((totals amount.currency).getD .zero).add? amount.value)
  return fun c => if c = amount.currency then some sum else totals c

def listed (totals : Totals) : List (Currency × Decimal) :=
  Currency.all.filterMap fun c => (totals c).map (c, ·)

end Totals

namespace AccountGroup

def addBalances (totals : Totals) : List Account → Dialogue Totals
  | [] => return totals
  | account :: rest =>
    match account.cryptoBalance? with
    | none => addBalances totals rest
    | some balance => do
      let amount ← balance
      let totals ← totals.add amount
      addBalances totals rest

def cryptoBalances (group : AccountGroup) : Dialogue Totals :=
  addBalances .empty group.accounts

end AccountGroup

end MultiWallet
