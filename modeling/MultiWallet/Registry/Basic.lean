import MultiWallet.Processor

set_option autoImplicit false

namespace MultiWallet

def isEligible (action : Action) (source : CryptoAccount) (target : Account) : Bool :=
  match action with
  | .sell => target.isFiat
  | .swap =>
    match target with
    | .crypto account =>
      account.currency != source.currency && (!source.isCustodial || account.isCustodial)
    | .interest _ | .fiat _ => false
  | .send => !target.isFiat
  | .viewActivity | .receive | .summary | .interestDeposit => true

structure Registry where
  records : WalletRecords
  custodian : Custodian
  reporter : Reporter
  labels : Labels
  assets : List Asset
deriving DecidableEq, Repr

namespace Registry

def repeated? : List Asset → (seen : List Currency) → Option Currency
  | [], _ => none
  | a :: rest, seen =>
    if seen.elem a.currency then some a.currency else repeated? rest (a.currency :: seen)

def make (records : WalletRecords) (custodian : Custodian) (reporter : Reporter)
    (labels : Labels) (assets : List Asset) : Checked Registry :=
  match repeated? assets [] with
  | some currency => fail (.config (currency.ticker ++ " registered more than once"))
  | none => .ok { records, custodian, reporter, labels, assets }

def fiat (r : Registry) : FiatAsset := { custodian := r.custodian }

def asset? (r : Registry) (currency : Currency) : Option Asset :=
  r.assets.find? fun a => a.currency == currency

def asset (r : Registry) (currency : Currency) : Checked Asset :=
  orFail (.unknownAsset currency) (r.asset? currency)

def enabledAssets (r : Registry) : List Asset := r.assets.filter (·.enabled)

def prepareAll (reporter : Reporter) : List Asset → Dialogue Unit
  | [] => return ()
  | a :: rest => do
    match ← a.prepare.attempt with
    | .ok () => prepareAll reporter rest
    | .error cause => do
      let failure := Failure.assetInit a.currency cause
      reporter.report a.currency.ticker failure
      Dialogue.count (.initFailure a.currency)
      Dialogue.fail failure

def prepare (r : Registry) : Dialogue Unit := prepareAll r.reporter r.assets

def members : Option AccountGroup → List Account
  | some group => group.accounts
  | none => []

def gather (labels : Labels) : List Asset → Dialogue (List Account)
  | [] => return []
  | a :: rest => do
    let group ← a.group labels .all
    return members group ++ (← gather labels rest)

def allWallets (r : Registry) : Dialogue AccountGroup := do
  let crypto ← gather r.labels r.enabledAssets
  let fiat ← r.fiat.group r.labels
  return { label := r.labels.allWallets, accounts := crypto ++ members fiat }

def candidates (r : Registry) (source : CryptoAccount) (action : Action) :
    Dialogue (List Account) :=
  match action with
  | .swap => do return (← r.allWallets).accounts
  | _ => do
    let asset ← r.asset source.currency
    let own ← asset.otherAccounts r.labels source
    return own ++ (← r.fiat.accounts r.labels)

def targets (r : Registry) (source : CryptoAccount) (action : Action) :
    Dialogue (List Account) := do
  return (← r.candidates source action).filter (isEligible action source)

def resolveAll : List Account → Dialogue (List (Account × Answer Address))
  | [] => return []
  | account :: rest => do
    let answer ← account.receiveAddress.attempt
    return (account, answer) :: (← resolveAll rest)

def isAt (text : String) : Answer Address → Bool
  | .ok address => address.isAt text
  | .error _ => false

def firstAt (text : String) (resolved : List (Account × Answer Address)) : Option Account :=
  (resolved.find? fun (_, answer) => isAt text answer).map (·.1)

def findByAddress (r : Registry) (currency : Currency) (text : String) :
    Dialogue (Option Account) := do
  let asset ← r.asset currency
  match ← asset.group r.labels .all with
  | none => return none
  | some group => return firstAt text (← resolveAll group.accounts)

def startTransfer (r : Registry) (source : Account) (target : Target) (action : Action) :
    Dialogue Processor :=
  match source with
  | .crypto account => do
    let asset ← r.asset account.currency
    Processor.create asset r.custodian account target action
  | account =>
    Dialogue.fail
      (.invalidSource
        (account.kind ++ " account '" ++ account.label ++ "' cannot originate a transaction"))

def acceptsPassword (r : Registry) (password : String) : Option Bool :=
  match r.records with
  | .payload p => some (p.accepts password)
  | .external => none

end Registry

end MultiWallet
