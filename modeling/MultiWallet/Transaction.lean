import MultiWallet.Amount
import MultiWallet.Network
import MultiWallet.Timestamp

set_option autoImplicit false

namespace MultiWallet

inductive LedgerOperation where
  | createAccount (destination : String) (startingBalance : Decimal)
  | payment (destination : String) (amount : Decimal)
deriving DecidableEq, Repr

structure LedgerTransaction where
  network : Network
  passphrase : String
  source : String
  sequence : Int
  feeStroops : UInt32
  memo : Option String
  operations : List LedgerOperation
deriving DecidableEq, Repr

structure EvmTransaction where
  currency : Currency
  chainId : UInt64
  sender : String
  recipient : String
  valueWei : String
  nonce : UInt64
  gasLimit : UInt64
  gasPriceWei : String
deriving DecidableEq, Repr

structure Coin where
  txid : String
  index : UInt32
  value : UInt64
deriving DecidableEq, Repr

structure Output where
  address : String
  value : UInt64
deriving DecidableEq, Repr

structure CoinTransaction where
  currency : Currency
  inputs : List Coin
  outputs : List Output
  fee : UInt64
deriving DecidableEq, Repr

inductive UnsignedTransaction where
  | ledger (tx : LedgerTransaction)
  | evm (tx : EvmTransaction)
  | coins (tx : CoinTransaction)
deriving DecidableEq, Repr

def EvmTransaction.fee (tx : EvmTransaction) : Checked Amount :=
  match Decimal.ofString tx.gasPriceWei with
  | .error e =>
    fail (.invalidAmount ("gas price '" ++ tx.gasPriceWei ++ "': " ++ e.message))
  | .ok price => do
    let total ← orOverflow (price.mul? (.ofUInt64 tx.gasLimit))
    Amount.ofMinorText tx.currency total.toText

namespace UnsignedTransaction

def currency : UnsignedTransaction → Currency
  | ledger _ => .xlm
  | evm tx => tx.currency
  | coins tx => tx.currency

def fee : UnsignedTransaction → Checked Amount
  | ledger tx => .ok (Amount.ofMinor .xlm tx.feeStroops.toUInt64)
  | evm tx => tx.fee
  | coins tx => .ok (Amount.ofMinor tx.currency tx.fee)

end UnsignedTransaction

structure SignedTransaction where
  currency : Currency
  hash : String
  encoded : String
deriving DecidableEq, Repr

structure Receipt where
  accepted : Bool
  transaction : SignedTransaction
  resultCode : Option String
deriving DecidableEq, Repr

structure Transfer where
  source : String
  destination : String
  amount : Amount
  rate : Decimal
  memo : Option String
deriving DecidableEq, Repr

structure HistoryEntry where
  id : String
  kind : String
  hash : String
  sender : Option String
  recipient : Option String
  amount : Option Decimal
  time : Option Timestamp
deriving DecidableEq, Repr

end MultiWallet
