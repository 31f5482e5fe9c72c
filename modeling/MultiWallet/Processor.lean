import MultiWallet.Asset.Basic

set_option autoImplicit false

namespace MultiWallet

structure Processor where
  id : Nat
  source : CryptoAccount
  target : Target
  action : Action
  engine : Engine
deriving DecidableEq, Repr

namespace Processor

def requireCurrency (p : Processor) (amount : Amount) : Checked Unit :=
  if amount.currency = p.source.currency then return ()
  else fail (.currencyMismatch p.source.currency.ticker amount.currency.ticker)

def requirePositive (amount : Amount) : Checked Unit :=
  if amount.isPositive then return ()
  else fail (.invalidAmount ("transfer amount must be positive, got " ++ amount.toText))

def defaultLevel (p : Processor) : FeeLevel := p.engine.defaultLevel

def validate (p : Processor) : Dialogue Unit := p.engine.validate

def fee (p : Processor) (amount : Amount) (level : FeeLevel) : Dialogue Amount := do
  p.requireCurrency amount
  p.engine.validate
  p.engine.fee amount level

def maximum (p : Processor) (level : FeeLevel) : Dialogue Amount := do
  p.engine.validate
  p.engine.maximum level

def execute (p : Processor) (amount : Amount) (level : FeeLevel) : Dialogue String := do
  p.requireCurrency amount
  requirePositive amount
  p.engine.validate
  p.engine.execute amount level

def bind (source : CryptoAccount) (target : Target) (action : Action) (engine : Engine) :
    Dialogue Processor := do
  let id ← Dialogue.freshId
  return { id, source, target, action, engine }

def describeTarget : Target → String
  | .address address => address.currency.ticker ++ " address"
  | .account account => account.kind ++ " account"

def unsupported (action : Action) (target : Target) : Failure :=
  .unsupportedTransaction (action.name ++ " to " ++ describeTarget target)

def sendAddress : Target → Dialogue Address
  | .address address => return address
  | .account (.crypto account) => account.receiveAddress
  | .account account => Dialogue.fail (unsupported .send (.account account))

def sendEngine (asset : Asset) (custodian : Custodian) (source : CryptoAccount)
    (target : Target) : Dialogue Engine := do
  let address ← sendAddress target
  if source.isCustodial then
    return .withdrawal { source, target := .address address, custodian }
  else asset.engine source (.address address)

def tradeTarget (action : Action) (target : Target) : Checked (OrderKind × Account) :=
  match action, target with
  | .sell, .account (.fiat account) => .ok (.sell, .fiat account)
  | .swap, .account (.crypto account) => .ok (.swap, .crypto account)
  | _, _ => fail (unsupported action target)

def tradeEngine (asset : Asset) (custodian : Custodian) (source : CryptoAccount)
    (action : Action) (target : Target) : Dialogue Engine := do
  let (kind, account) ← tradeTarget action target
  let trade : Trade := { source, target := account, kind, custodian }
  if source.isCustodial then return .trade trade
  else
    let address ← custodian.depositAddress source.currency
    let deposit ← asset.engine source (.address (.of source.currency address))
    return .fundedTrade trade deposit

def chooseEngine (asset : Asset) (custodian : Custodian) (source : CryptoAccount)
    (target : Target) (action : Action) : Dialogue Engine :=
  match action with
  | .send => sendEngine asset custodian source target
  | .sell | .swap => tradeEngine asset custodian source action target
  | .viewActivity | .receive | .summary | .interestDeposit =>
    Dialogue.fail (unsupported action target)

def create (asset : Asset) (custodian : Custodian) (source : CryptoAccount) (target : Target)
    (action : Action) : Dialogue Processor := do
  if source.permits action then
    let engine ← chooseEngine asset custodian source target action
    Dialogue.count (.created action)
    bind source target action engine
  else Dialogue.fail (.actionNotPermitted action source.currency)

end Processor

end MultiWallet
