import MultiWallet.Account.Queries
import MultiWallet.FeeSource
import MultiWallet.Reporter
import MultiWallet.Signer

set_option autoImplicit false

namespace MultiWallet

structure Sender where
  currency : Currency
  label : String
  address : String
deriving DecidableEq, Repr

def CryptoAccount.sender (a : CryptoAccount) : Dialogue Sender := do
  let address ← a.receiveAddress
  return { currency := a.currency, label := a.label, address := address.text }

-- The schedule's gas limit, where it has one, stands above the chain's own.
def UnsignedTransaction.withGasLimit (limit : Option UInt64) :
    UnsignedTransaction → UnsignedTransaction
  | .evm tx => .evm { tx with gasLimit := limit.getD tx.gasLimit }
  | tx => tx

structure Payment where
  chain : ChainClient
  signer : Signer
deriving DecidableEq, Repr

namespace Payment

def build (p : Payment) (amount : Amount) (sender : Sender) (destination : String)
    (memo : Option String) (schedule : FeeSchedule) (type : FeeType) :
    Dialogue UnsignedTransaction := do
  let tx ← p.chain.build
    { source := sender.address, destination, amount, rate := schedule.rate type, memo }
  return tx.withGasLimit schedule.gasLimit

def fee (p : Payment) (amount : Amount) (sender : Sender) (destination : String)
    (schedule : FeeSchedule) (type : FeeType) : Dialogue Amount := do
  let tx ← p.build amount sender destination none schedule type
  Dialogue.ofChecked tx.fee

def settle (amount : Amount) (receipt : Receipt) : Dialogue String := do
  if receipt.accepted then
    Dialogue.count (.submitted amount.currency)
    return receipt.transaction.hash
  else
    Dialogue.count (.rejected amount.currency)
    Dialogue.fail (.rejected amount.currency (receipt.resultCode.getD "rejected"))

def execute (p : Payment) (amount : Amount) (sender : Sender) (destination : String)
    (memo : Option String) (schedule : FeeSchedule) (type : FeeType) : Dialogue String := do
  let tx ← p.build amount sender destination memo schedule type
  let signed ← p.signer.sign tx
  let receipt ← p.chain.submit signed
  settle amount receipt

def maximum (p : Payment) (sender : Sender) (schedule : FeeSchedule) (type : FeeType) :
    Dialogue Amount :=
  p.chain.maximum sender.address (schedule.rate type)

end Payment

structure MeteredPayment where
  payment : Payment
  fees : FeeSource
  type : FeeType
  reporter : Reporter
deriving DecidableEq, Repr

namespace MeteredPayment

def fee (m : MeteredPayment) (amount : Amount) (sender : Sender) (destination : String) :
    Dialogue Amount := do
  let schedule ← m.fees.schedule amount.currency
  m.payment.fee amount sender destination schedule m.type

def execute (m : MeteredPayment) (amount : Amount) (sender : Sender) (destination : String)
    (memo : Option String) : Dialogue String := do
  let schedule ← m.fees.schedule amount.currency
  m.payment.execute amount sender destination memo schedule m.type

def tryMaximum (m : MeteredPayment) (sender : Sender) : Dialogue Amount := do
  let schedule ← m.fees.schedule sender.currency
  m.payment.maximum sender schedule m.type

def maximum (m : MeteredPayment) (sender : Sender) : Dialogue Amount := do
  match ← (m.tryMaximum sender).attempt with
  | .ok amount => return amount
  | .error cause => do
    m.reporter.report sender.currency.ticker cause
    Dialogue.count (.fallback sender.currency)
    return .zero sender.currency

end MeteredPayment

end MultiWallet
