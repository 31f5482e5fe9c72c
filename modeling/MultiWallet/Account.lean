import MultiWallet.Action
import MultiWallet.Currency
import MultiWallet.Network
import MultiWallet.Timestamp
import MultiWallet.Decimal.Basic

set_option autoImplicit false

namespace MultiWallet

inductive Custodian where
  | external
  | http (base token : String)
deriving DecidableEq, Repr

inductive StellarServer where
  | external (name : String)
  | http (base : String)
deriving DecidableEq, Repr

inductive ChainClient where
  | external (name : String) (currency : Currency)
  | indexer (currency : Currency) (base : String)
  | stellar (server : StellarServer) (network : Network)
  | evm (currency : Currency) (url : String) (gasLimit : UInt64)
deriving DecidableEq, Repr

def ChainClient.currency : ChainClient → Currency
  | external _ currency => currency
  | indexer currency _ => currency
  | stellar _ _ => .xlm
  | evm currency _ _ => currency

inductive Custody where
  | nonCustodial
  | custodial
deriving DecidableEq, Repr

inductive Backend where
  | onChain (chain : ChainClient) (address : String)
  | trading (custodian : Custodian)
  | addressOnly (address : String)
  | external (name : String)
deriving DecidableEq, Repr

structure CryptoAccount where
  id : Nat
  label : String
  currency : Currency
  custody : Custody
  permissions : Permissions
  backend : Backend
deriving DecidableEq, Repr

structure InterestAccount where
  id : Nat
  label : String
  currency : Currency
  custodian : Custodian
deriving DecidableEq, Repr

structure FiatAccount where
  id : Nat
  label : String
  code : String
  custodian : Custodian
deriving DecidableEq, Repr

inductive Account where
  | crypto (account : CryptoAccount)
  | interest (account : InterestAccount)
  | fiat (account : FiatAccount)
deriving DecidableEq, Repr

def CryptoAccount.isCustodial (a : CryptoAccount) : Bool := a.custody == .custodial

namespace Account

def id : Account → Nat
  | crypto a => a.id
  | interest a => a.id
  | fiat a => a.id

def label : Account → String
  | crypto a => a.label
  | interest a => a.label
  | fiat a => a.label

def isCustodial : Account → Bool
  | crypto a => a.isCustodial
  | interest _ | fiat _ => true

def currency? : Account → Option Currency
  | crypto a => some a.currency
  | interest a => some a.currency
  | fiat _ => none

def isFiat : Account → Bool
  | fiat _ => true
  | _ => false

def kind : Account → String
  | crypto _ => "crypto"
  | interest _ => "interest"
  | fiat _ => "fiat"

def same (a b : Account) : Bool := a.id == b.id

end Account

inductive AccountFilter where
  | all
  | nonCustodial
  | custodial
  | interest
deriving DecidableEq, Repr

def AccountFilter.selects : AccountFilter → Account → Bool
  | all, _ => true
  | nonCustodial, .crypto a => !a.isCustodial
  | custodial, .crypto a => a.isCustodial
  | interest, .interest _ => true
  | _, _ => false

structure AccountGroup where
  label : String
  accounts : List Account
deriving DecidableEq, Repr

def AccountGroup.ofAccounts? (label : String) (accounts : List Account) : Option AccountGroup :=
  if accounts.isEmpty then none else some { label, accounts }

structure Activity where
  hash : String
  kind : String
  amount : Option Decimal
  counterparty : Option String
  time : Option Timestamp
deriving DecidableEq, Repr

structure WalletEntry where
  label : Option String
  address : String
  archived : Bool
deriving DecidableEq, Repr

structure Address where
  currency : Currency
  text : String
  memo : Option String
deriving DecidableEq, Repr

def Address.of (currency : Currency) (text : String) : Address :=
  { currency, text, memo := none }

def Address.isAt (a : Address) (text : String) : Bool := Text.sameIgnoringCase a.text text

inductive Target where
  | account (account : Account)
  | address (address : Address)
deriving DecidableEq, Repr

end MultiWallet
