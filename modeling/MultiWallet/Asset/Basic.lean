import MultiWallet.Engine.Basic
import MultiWallet.Labels
import MultiWallet.Wallet.Payload

set_option autoImplicit false

namespace MultiWallet

structure Parties where
  records : WalletRecords
  custodian : Custodian
  signer : Signer
  fees : FeeSource
  reporter : Reporter
deriving DecidableEq, Repr

inductive AssetKind where
  | onChain (chain : ChainClient) (preference : Option Int)
  | stellar (chain : ChainClient) (preference : Option Int)
  -- Accounts are listed, and nothing can be done with them yet.
  | stacks
  | external
deriving DecidableEq, Repr

structure Asset where
  currency : Currency
  enabled : Bool
  kind : AssetKind
  parties : Parties
deriving DecidableEq, Repr

namespace Asset

def prepare (a : Asset) : Dialogue Unit :=
  match a.kind with
  | .onChain chain _ | .stellar chain _ => chain.health
  | .stacks => return ()
  | .external => do
    let answer : Answer Unit ← Dialogue.ask (.assetInit a.currency)
    Dialogue.ofAnswer answer

def entryLabel (a : Asset) (labels : Labels) (entry : WalletEntry) : String :=
  entry.label.getD (labels.nonCustodialFor a.currency)

def openAccount (a : Asset) (label : String) (custody : Custody) (permissions : Permissions)
    (backend : Backend) : Dialogue CryptoAccount := do
  let id ← Dialogue.freshId
  return { id, label, currency := a.currency, custody, permissions, backend }

def openWalletAccount (a : Asset) (labels : Labels) (chain : ChainClient) (entry : WalletEntry) :
    Dialogue CryptoAccount :=
  a.openAccount (a.entryLabel labels entry) .nonCustodial .nonCustodial
    (.onChain chain entry.address)

def openAll {α β : Type} (f : α → Dialogue β) : List α → Dialogue (List β)
  | [] => return []
  | a :: rest => do
    let b ← f a
    return b :: (← openAll f rest)

def activeEntries (entries : List WalletEntry) : List WalletEntry :=
  entries.filter fun entry => !entry.archived

def nonCustodialAccounts (a : Asset) (labels : Labels) : Dialogue (List CryptoAccount) :=
  match a.kind with
  | .onChain chain _ => do
    let entries ← a.parties.records.entries a.currency
    openAll (a.openWalletAccount labels chain) (activeEntries entries)
  | .stellar chain _ => do
    let entries ← a.parties.records.entries a.currency
    openAll (a.openWalletAccount labels chain) ((activeEntries entries).take 1)
  | .stacks => do
    match ← (a.parties.records.entries a.currency).attempt with
    | .ok (entry :: _) =>
      let account ← a.openAccount (a.entryLabel labels entry) .nonCustodial .none
        (.addressOnly entry.address)
      return [account]
    | _ => return []
  | .external => do
    let answer : Answer (List CryptoAccount) ←
      Dialogue.ask (.assetNonCustodial a.currency (labels.assetGroupFor a.currency))
    Dialogue.ofAnswer answer

def custodialPermissions (a : Asset) : Permissions :=
  match a.kind with
  | .stacks => .none
  | _ => .custodial

def custodialAccounts (a : Asset) (labels : Labels) : Dialogue (List CryptoAccount) :=
  match a.kind with
  | .external => do
    let answer : Answer (List CryptoAccount) ←
      Dialogue.ask (.assetCustodial a.currency (labels.assetGroupFor a.currency))
    Dialogue.ofAnswer answer
  | _ => do
    let account ← a.openAccount (labels.custodialFor a.currency) .custodial
      a.custodialPermissions (.trading a.parties.custodian)
    return [account]

def interestAccounts (a : Asset) (labels : Labels) : Dialogue (List InterestAccount) :=
  match a.kind with
  | .stacks => return []
  | .external => do
    let answer : Answer (List InterestAccount) ←
      Dialogue.ask (.assetInterest a.currency (labels.assetGroupFor a.currency))
    Dialogue.ofAnswer answer
  | _ => do
    match ← a.parties.custodian.interestBalance a.currency with
    | some _ =>
      let id ← Dialogue.freshId
      return [{ id, label := labels.interestFor a.currency, currency := a.currency,
                custodian := a.parties.custodian }]
    | none => return []

def load (a : Asset) (labels : Labels) : Dialogue (List Account) := do
  let nonCustodial ← (a.nonCustodialAccounts labels).orElse []
  let custodial ← a.custodialAccounts labels
  let interest ← (a.interestAccounts labels).orElse []
  return (nonCustodial ++ custodial).map .crypto ++ interest.map .interest

def keep (currency : Currency) (accounts : List Account) (s : Session) : Session :=
  { s with loaded := fun c => if c = currency then some accounts else s.loaded c }

def accounts (a : Asset) (labels : Labels) : Dialogue (List Account) := do
  match (← Dialogue.session).loaded a.currency with
  | some accounts => return accounts
  | none =>
    let accounts ← a.load labels
    Dialogue.modify (keep a.currency accounts)
    return accounts

def group (a : Asset) (labels : Labels) (filter : AccountFilter) :
    Dialogue (Option AccountGroup) := do
  let accounts ← a.accounts labels
  return AccountGroup.ofAccounts? (labels.assetGroupFor a.currency) (accounts.filter filter.selects)

def otherAccounts (a : Asset) (labels : Labels) (source : CryptoAccount) :
    Dialogue (List Account) := do
  let accounts ← a.accounts labels
  return accounts.filter fun account => account.id != source.id

def payment (a : Asset) (chain : ChainClient) : Payment := { chain, signer := a.parties.signer }

def engine (a : Asset) (source : CryptoAccount) (target : Target) : Dialogue Engine :=
  match a.kind with
  | .onChain chain preference =>
    return .onChain
      { source, target, payment := a.payment chain, fees := a.parties.fees,
        reporter := a.parties.reporter, preference }
  | .stellar chain preference =>
    return .stellar
      { source, target, payment := a.payment chain, fees := a.parties.fees, preference }
  | .stacks => Dialogue.fail (.unsupportedTransaction "STX transfers")
  | .external => do
    let answer : Answer String ← Dialogue.ask (.assetEngine a.currency)
    let name ← Dialogue.ofAnswer answer
    return .external name .regular

end Asset

structure FiatAsset where
  custodian : Custodian
deriving DecidableEq, Repr

namespace FiatAsset

def openAccount (a : FiatAsset) (labels : Labels) (code : String) : Dialogue Account := do
  let id ← Dialogue.freshId
  return .fiat { id, label := labels.fiatFor code, code, custodian := a.custodian }

def accounts (a : FiatAsset) (labels : Labels) : Dialogue (List Account) := do
  match (← Dialogue.session).loadedFiat with
  | some accounts => return accounts
  | none =>
    let codes ← a.custodian.fiatCurrencies
    let accounts ← Asset.openAll (a.openAccount labels) codes
    Dialogue.modify fun s => { s with loadedFiat := some accounts }
    return accounts

def group (a : FiatAsset) (labels : Labels) : Dialogue (Option AccountGroup) := do
  let accounts ← a.accounts labels
  return AccountGroup.ofAccounts? labels.fiatGroup accounts

end FiatAsset

end MultiWallet
