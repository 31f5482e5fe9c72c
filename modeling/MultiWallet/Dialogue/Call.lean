import MultiWallet.Account
import MultiWallet.Fee
import MultiWallet.Http
import MultiWallet.Order
import MultiWallet.Transaction

set_option autoImplicit false

namespace MultiWallet

structure StellarBalance where
  balance : String
  assetType : String
  assetCode : Option String
deriving DecidableEq, Repr

structure StellarAccount where
  id : String
  sequence : String
  subentries : UInt32
  balances : List StellarBalance
deriving DecidableEq, Repr

structure StellarOperation where
  id : String
  kind : String
  transactionHash : String
  createdAt : Option Timestamp
  sender : Option String
  recipient : Option String
  amount : Option String
  funder : Option String
  account : Option String
  startingBalance : Option String
deriving DecidableEq, Repr

structure StellarSubmission where
  successful : Bool
  hash : Option String
  resultCode : Option String
deriving DecidableEq, Repr

inductive Call where
  | http (request : Http.Request)
  | walletEntries (currency : Currency)
  | custodianReachable
  | fiatCurrencies
  | tradingBalance (currency : Currency)
  | interestBalance (currency : Currency)
  | fiatBalance (code : String)
  | depositAddress (currency : Currency)
  | withdrawalFee (currency : Currency)
  | withdraw (currency : Currency) (address : String) (amount : Decimal)
  | placeOrder (order : Order)
  | feeSchedule (currency : Currency)
  | sign (tx : UnsignedTransaction)
  | report (tag : String) (cause : Failure)
  | accountAddress (name : String)
  | accountBalance (name : String)
  | accountActivity (name : String)
  | chainHealth (name : String)
  | chainExists (name account : String)
  | chainBalance (name account : String)
  | chainHistory (name account : String)
  | chainBuild (name : String) (transfer : Transfer)
  | chainSubmit (name : String) (signed : SignedTransaction)
  | chainMaximum (name account : String) (rate : Decimal)
  | stellarRoot (name : String)
  | stellarAccount (name account : String)
  | stellarOperations (name account : String)
  | stellarSubmit (name envelope : String)
  | assetInit (currency : Currency)
  | assetNonCustodial (currency : Currency) (groupLabel : String)
  | assetCustodial (currency : Currency) (groupLabel : String)
  | assetInterest (currency : Currency) (groupLabel : String)
  | assetEngine (currency : Currency)
  | engineValidate (name : String)
  | engineFee (name : String) (amount : Amount) (level : FeeLevel)
  | engineMaximum (name : String) (level : FeeLevel)
  | engineExecute (name : String) (amount : Amount) (level : FeeLevel)
deriving DecidableEq, Repr

abbrev Answer (α : Type) := Except Failure α

abbrev Call.Reply : Call → Type
  | .http _ => Http.Outcome
  | .report _ _ => Unit
  | .walletEntries _ => Answer (List WalletEntry)
  | .custodianReachable => Answer Unit
  | .fiatCurrencies => Answer (List String)
  | .tradingBalance _ => Answer Decimal
  | .interestBalance _ => Answer (Option Decimal)
  | .fiatBalance _ => Answer Decimal
  | .depositAddress _ => Answer String
  | .withdrawalFee _ => Answer Decimal
  | .withdraw _ _ _ => Answer String
  | .placeOrder _ => Answer String
  | .feeSchedule _ => Answer FeeSchedule
  | .sign _ => Answer SignedTransaction
  | .accountAddress _ => Answer String
  | .accountBalance _ => Answer Decimal
  | .accountActivity _ => Answer (List Activity)
  | .chainHealth _ => Answer Unit
  | .chainExists _ _ => Answer Bool
  | .chainBalance _ _ => Answer Amount
  | .chainHistory _ _ => Answer (List HistoryEntry)
  | .chainBuild _ _ => Answer UnsignedTransaction
  | .chainSubmit _ _ => Answer Receipt
  | .chainMaximum _ _ _ => Answer Amount
  | .stellarRoot _ => Answer Unit
  | .stellarAccount _ _ => Answer StellarAccount
  | .stellarOperations _ _ => Answer (List StellarOperation)
  | .stellarSubmit _ _ => Answer StellarSubmission
  | .assetInit _ => Answer Unit
  | .assetNonCustodial _ _ => Answer (List CryptoAccount)
  | .assetCustodial _ _ => Answer (List CryptoAccount)
  | .assetInterest _ _ => Answer (List InterestAccount)
  | .assetEngine _ => Answer String
  | .engineValidate _ => Answer Unit
  | .engineFee _ _ _ => Answer Amount
  | .engineMaximum _ _ => Answer Amount
  | .engineExecute _ _ _ => Answer String

end MultiWallet
