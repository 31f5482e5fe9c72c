import MultiWallet.Action
import MultiWallet.Currency

set_option autoImplicit false

namespace MultiWallet

inductive Failure where
  | config (detail : String)
  | unknownAsset (currency : Currency)
  | invalidSource (detail : String)
  | contractViolation (detail : String)
  | actionNotPermitted (action : Action) (currency : Currency)
  | unsupportedTransaction (detail : String)
  | assetInit (currency : Currency) (cause : Failure)
  | wallet (detail : String)
  | custodial (detail : String)
  | network (currency : Currency) (detail : String)
  | ledger (status : Nat) (detail : String)
  | feeLookup (currency : Currency) (detail : String)
  | signing (detail : String)
  | rejected (currency : Currency) (reason : String)
  | insufficientFunds (currency : Currency) (held needed : String)
  | currencyMismatch (expected actual : String)
  | invalidAmount (detail : String)
  | http (status : Option Nat)
  | internal (detail : String)
deriving DecidableEq, Repr

namespace Failure

def kind : Failure → String
  | config _ => "Config"
  | unknownAsset _ => "UnknownAsset"
  | invalidSource _ => "InvalidSource"
  | contractViolation _ => "ContractViolation"
  | actionNotPermitted _ _ => "ActionNotPermitted"
  | unsupportedTransaction _ => "UnsupportedTransaction"
  | assetInit _ _ => "AssetInit"
  | wallet _ => "Wallet"
  | custodial _ => "Custodial"
  | network _ _ => "Network"
  | ledger _ _ => "Ledger"
  | feeLookup _ _ => "FeeLookup"
  | signing _ => "Signing"
  | rejected _ _ => "SubmissionRejected"
  | insufficientFunds _ _ _ => "InsufficientFunds"
  | currencyMismatch _ _ => "CurrencyMismatch"
  | invalidAmount _ => "InvalidAmount"
  | http _ => "Http"
  | internal _ => "Internal"

def message : Failure → String
  | config detail => "Configuration error: " ++ detail
  | unknownAsset currency => "Unknown asset " ++ currency.ticker
  | invalidSource detail => "Invalid transaction source: " ++ detail
  | contractViolation detail => "Contract violation: " ++ detail
  | actionNotPermitted action currency =>
      "Action " ++ action.title ++ " is not permitted for " ++ currency.ticker ++ " account"
  | unsupportedTransaction detail => "Unsupported transaction: " ++ detail
  | assetInit currency _ => "Failed init: " ++ currency.ticker
  | wallet detail => "Wallet metadata error: " ++ detail
  | custodial detail => "Custodial backend error: " ++ detail
  | network currency detail => "Network error on " ++ currency.ticker ++ ": " ++ detail
  | ledger status detail =>
      "Ledger responded with status " ++ toString status ++ ": " ++ detail
  | feeLookup currency detail => "Fee lookup failed for " ++ currency.ticker ++ ": " ++ detail
  | signing detail => "Signing error: " ++ detail
  | rejected currency reason =>
      "Transaction rejected by " ++ currency.ticker ++ " network: " ++ reason
  | insufficientFunds currency held needed =>
      "Insufficient funds on " ++ currency.ticker ++ ": have " ++ held ++ ", need " ++ needed
  | currencyMismatch expected actual =>
      "Currency mismatch: expected " ++ expected ++ ", got " ++ actual
  | invalidAmount detail => "Invalid amount: " ++ detail
  | http _ => "HTTP error"
  | internal detail => "Internal error: " ++ detail

def unknownTicker (text : String) : Failure := config ("Unknown currency ticker " ++ text)

def isContractViolation : Failure → Bool
  | unknownAsset _ | invalidSource _ | contractViolation _ | actionNotPermitted _ _
  | unsupportedTransaction _ => true
  | _ => false

def isNotFound : Failure → Bool
  | ledger status _ => status == 404
  | http status => status == some 404
  | _ => false

end Failure

inductive Halt where
  | failure (cause : Failure)
  | overflow
deriving DecidableEq, Repr

abbrev Checked (α : Type) := Except Halt α

def fail {α : Type} (cause : Failure) : Checked α := .error (.failure cause)

def orOverflow {α : Type} : Option α → Checked α
  | some a => .ok a
  | none => .error .overflow

def orFail {α : Type} (cause : Failure) : Option α → Checked α
  | some a => .ok a
  | none => fail cause

end MultiWallet
