import MultiWallet.Proofs.Incident

set_option autoImplicit false

namespace MultiWallet

open Dialogue Watched

section Transfers

variable (amount : Amount) (level : FeeLevel)

def MeteredPayment.watchedExecute (m : MeteredPayment) (sender : Sender) (destination : String)
    (memo : Option String) : Watched String := do
  let schedule ← m.fees.schedule amount.currency
  m.payment.watched { amount, sender, destination, memo, schedule, type := m.type }

theorem MeteredPayment.faithful_watchedExecute (m : MeteredPayment) (sender : Sender)
    (destination : String) (memo : Option String) :
    (m.watchedExecute amount sender destination memo).Faithful :=
  (faithful_ofDialogue (m.fees.uncounted_schedule _)).bind fun _ => m.payment.faithful_watched _

namespace OnChainTransfer

variable (t : OnChainTransfer)

def watchedMaximum : Watched Amount := do
  let sender ← t.source.sender
  (t.metered level).watchedMaximum sender

theorem faithful_watchedMaximum : (t.watchedMaximum level).Faithful :=
  (faithful_ofDialogue t.source.uncounted_sender).bind fun _ =>
    (t.metered level).faithful_watchedMaximum _

def watchedExecute : Watched String := do
  let address ← chainAddress t.source t.target
  let sender ← t.source.sender
  (t.metered level).watchedExecute amount sender address.text address.memo

theorem faithful_watchedExecute : (t.watchedExecute amount level).Faithful :=
  (faithful_ofChecked _).bind fun _ => (faithful_ofDialogue t.source.uncounted_sender).bind
    fun _ => (t.metered level).faithful_watchedExecute _ _ _ _

end OnChainTransfer

namespace StellarTransfer

variable (t : StellarTransfer)

def watchedExecute : Watched String := do
  let address ← t.destination
  let sender ← t.source.sender
  let schedule ← t.fees.schedule .xlm
  t.payment.watched
    { amount, sender, destination := address.text, memo := address.memo, schedule,
      type := level.type }

theorem faithful_watchedExecute : (t.watchedExecute amount level).Faithful :=
  (faithful_ofChecked _).bind fun _ => (faithful_ofDialogue t.source.uncounted_sender).bind
    fun _ => (faithful_ofDialogue (t.fees.uncounted_schedule _)).bind fun _ =>
      t.payment.faithful_watched _

end StellarTransfer

namespace Engine

variable (engine : Engine)

def watchedMaximum (engine : Engine) (level : FeeLevel) : Watched Amount :=
  match engine with
  | onChain t => t.watchedMaximum level
  | fundedTrade _ deposit => deposit.watchedMaximum level
  | stellar _ | withdrawal _ | trade _ | external _ _ => .ofDialogue (engine.maximum level)

theorem dialogue_watchedMaximum :
    (engine.watchedMaximum level).dialogue = engine.maximum level := by
  induction engine with
  | fundedTrade t deposit ih => exact ih
  | onChain t => rfl
  | stellar t => rfl
  | withdrawal w => rfl
  | trade t => rfl
  | external name own => rfl

theorem faithful_watchedMaximum : (engine.watchedMaximum level).Faithful := by
  induction engine with
  | onChain t => exact t.faithful_watchedMaximum level
  | fundedTrade t deposit ih => exact ih
  | stellar t =>
    exact faithful_ofDialogue (t.source.uncounted_sender.bind fun _ =>
      (t.fees.uncounted_schedule _).bind fun _ => t.payment.uncounted_maximum _ _ _)
  | withdrawal w =>
    exact faithful_ofDialogue ((w.custodian.tradingBalance_single _).uncounted.bind fun _ =>
      (w.custodian.withdrawalFee_single _).uncounted.bind fun _ => uncounted_ofChecked _)
  | trade t =>
    exact faithful_ofDialogue ((t.custodian.tradingBalance_single _).uncounted.bind fun _ =>
      uncounted_pure _)
  | external name own =>
    exact faithful_ofDialogue (uncounted_answer (c := .engineMaximum name level) fun reply => reply)

def watchedExecute (engine : Engine) (amount : Amount) (level : FeeLevel) : Watched String :=
  match engine with
  | onChain t => t.watchedExecute amount level
  | stellar t => t.watchedExecute amount level
  | fundedTrade t deposit => do
    let proceeds ← t.proceeds
    let hash ← deposit.watchedExecute amount level
    t.custodian.placeOrder (t.order proceeds amount (some hash))
  | withdrawal _ | trade _ | external _ _ => .ofDialogue (engine.execute amount level)

theorem dialogue_watchedExecute :
    (engine.watchedExecute amount level).dialogue = engine.execute amount level := by
  induction engine with
  | fundedTrade t deposit ih =>
    change (do
      let proceeds ← t.proceeds
      let hash ← (deposit.watchedExecute amount level).dialogue
      t.custodian.placeOrder (t.order proceeds amount (some hash)) : Dialogue String) = _
    rw [ih]
    rfl
  | onChain t => rfl
  | stellar t => rfl
  | withdrawal w => rfl
  | trade t => rfl
  | external name own => rfl

theorem faithful_watchedExecute : (engine.watchedExecute amount level).Faithful := by
  induction engine with
  | onChain t => exact t.faithful_watchedExecute amount level
  | stellar t => exact t.faithful_watchedExecute amount level
  | fundedTrade t deposit ih =>
    exact (faithful_ofChecked _).bind fun _ => ih.bind fun _ =>
      faithful_ofDialogue (t.custodian.placeOrder_single _).uncounted
  | withdrawal w =>
    exact faithful_ofDialogue ((uncounted_ofChecked _).bind fun _ =>
      (w.custodian.withdraw_single _ _ _).uncounted)
  | trade t =>
    exact faithful_ofDialogue ((uncounted_ofChecked _).bind fun _ =>
      (t.custodian.placeOrder_single _).uncounted)
  | external name own =>
    exact faithful_ofDialogue
      (uncounted_answer (c := .engineExecute name amount level) fun reply => reply)

end Engine

namespace Processor

variable (p : Processor)

def watchedMaximum : Watched Amount := do
  p.engine.validate
  p.engine.watchedMaximum level

theorem dialogue_watchedMaximum : (p.watchedMaximum level).dialogue = p.maximum level :=
  congrArg (p.engine.validate >>= fun _ => ·) (p.engine.dialogue_watchedMaximum level)

theorem faithful_watchedMaximum : (p.watchedMaximum level).Faithful :=
  (faithful_ofDialogue p.engine.uncounted_validate).bind fun _ =>
    p.engine.faithful_watchedMaximum level

def watchedExecute : Watched String := do
  p.requireCurrency amount
  requirePositive amount
  p.engine.validate
  p.engine.watchedExecute amount level

theorem dialogue_watchedExecute :
    (p.watchedExecute amount level).dialogue = p.execute amount level := by
  change (do
    p.requireCurrency amount
    requirePositive amount
    p.engine.validate
    (p.engine.watchedExecute amount level).dialogue : Dialogue String) = _
  rw [p.engine.dialogue_watchedExecute]
  rfl

theorem faithful_watchedExecute : (p.watchedExecute amount level).Faithful :=
  (faithful_ofChecked _).bind fun _ => (faithful_ofChecked _).bind fun _ =>
    (faithful_ofDialogue p.engine.uncounted_validate).bind fun _ =>
      p.engine.faithful_watchedExecute amount level

end Processor

end Transfers

namespace Registry

def watchedTransfer (r : Registry) (source : Account) (target : Target) (action : Action) :
    Watched Processor :=
  match source with
  | .crypto account => do
    let asset ← r.asset account.currency
    Processor.watchedCreate asset r.custodian account target action
  | .interest _ | .fiat _ => .ofDialogue (r.startTransfer source target action)

theorem dialogue_watchedTransfer (r : Registry) (source : Account) (target : Target)
    (action : Action) :
    (r.watchedTransfer source target action).dialogue = r.startTransfer source target action := by
  cases source <;> rfl

theorem faithful_watchedTransfer (r : Registry) (source : Account) (target : Target)
    (action : Action) : (r.watchedTransfer source target action).Faithful := by
  cases source with
  | crypto account =>
    exact (faithful_ofChecked _).bind fun asset =>
      Processor.faithful_watchedCreate asset r.custodian account target action
  | interest account => exact faithful_ofDialogue (uncounted_fail _)
  | fiat account => exact faithful_ofDialogue (uncounted_fail _)

def watchedPreparing (reporter : Reporter) : List Asset → Watched Unit
  | [] => return ()
  | a :: rest => do
    watchedOne reporter a
    watchedPreparing reporter rest

theorem dialogue_watchedPreparing (reporter : Reporter) (assets : List Asset) :
    (watchedPreparing reporter assets).dialogue = prepareAll reporter assets := by
  induction assets with
  | nil => rfl
  | cons a rest ih =>
    rw [prepareAll_cons, ← ih]
    rfl

theorem faithful_watchedPreparing (reporter : Reporter) (assets : List Asset) :
    (watchedPreparing reporter assets).Faithful := by
  induction assets with
  | nil => exact faithful_ofDialogue (uncounted_pure ())
  | cons a rest ih => exact (faithful_watchedOne reporter a).bind fun _ => ih

def watchedPerform (r : Registry) : Operation → Watched (List Account)
  | .prepare => do
    watchedPreparing r.reporter r.assets
    return []
  | o => .ofDialogue (r.perform o)

theorem dialogue_watchedPerform (r : Registry) (o : Operation) :
    (r.watchedPerform o).dialogue = r.perform o := by
  cases o with
  | prepare =>
    change ((watchedPreparing r.reporter r.assets).dialogue >>= fun _ => pure []) = _
    rw [dialogue_watchedPreparing]
    rfl
  | allWallets | accounts currency | group currency filter | targets source action
  | findByAddress currency text | fiatAccounts | fiatGroup => rfl

theorem faithful_watchedPerform (r : Registry) (o : Operation) :
    (r.watchedPerform o).Faithful := by
  cases o with
  | prepare =>
    exact (faithful_watchedPreparing _ _).bind fun _ => faithful_ofDialogue (uncounted_pure [])
  | allWallets => exact faithful_ofDialogue r.uncounted_allWallets.map
  | accounts currency =>
    exact faithful_ofDialogue (r.uncounted_asset (fun a => a.uncounted_accounts _) currency)
  | group currency filter =>
    exact faithful_ofDialogue
      (r.uncounted_asset (fun a => (a.uncounted_group _ filter).map) currency)
  | targets source action => exact faithful_ofDialogue (r.uncounted_targets source action)
  | findByAddress currency text =>
    exact faithful_ofDialogue (r.uncounted_findByAddress currency text).map
  | fiatAccounts => exact faithful_ofDialogue (r.fiat.uncounted_accounts _)
  | fiatGroup => exact faithful_ofDialogue (r.fiat.uncounted_group _).map

end Registry

end MultiWallet
