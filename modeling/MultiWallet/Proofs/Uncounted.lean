import MultiWallet.Proofs.Account.Balances
import MultiWallet.Proofs.Execution
import MultiWallet.Proofs.Registry.Identity
import MultiWallet.Proofs.Registry.Preparation
import MultiWallet.Proofs.Selection
import MultiWallet.Status

set_option autoImplicit false

namespace MultiWallet

open Dialogue

namespace Dialogue

variable {α β : Type} {d : Dialogue α} {f : α → Dialogue β}

def Uncounted (d : Dialogue α) : Prop := ∀ oracle s, (d.run oracle s).2.counted = s.counted

theorem uncounted_ofChecked (result : Checked α) : (ofChecked result).Uncounted := fun _ _ => rfl

theorem uncounted_pure (a : α) : (pure a : Dialogue α).Uncounted := fun _ _ => rfl

theorem uncounted_fail (cause : Failure) : (fail cause : Dialogue α).Uncounted := fun _ _ => rfl

theorem uncounted_freshId : freshId.Uncounted := fun _ _ => rfl

theorem uncounted_session : session.Uncounted := fun _ _ => rfl

theorem Uncounted.bind (first : d.Uncounted) (rest : ∀ a, (f a).Uncounted) :
    (d >>= f).Uncounted := by
  intro oracle s
  have before := first oracle s
  rw [run_bind]
  rcases run : d.run oracle s with ⟨halt | a, t⟩ <;> rw [run] at before
  · exact before
  · exact (rest a oracle t).trans before

theorem Uncounted.map {g : α → β} (uncounted : d.Uncounted) : (g <$> d).Uncounted := by
  rw [← bind_pure_comp]
  exact uncounted.bind fun a => uncounted_pure (g a)

theorem Uncounted.attempt (uncounted : d.Uncounted) : d.attempt.Uncounted := by
  intro oracle s
  rw [run_attempt_eq]
  exact uncounted oracle s

theorem Uncounted.orElse (uncounted : d.Uncounted) (value : α) : (d.orElse value).Uncounted := by
  refine uncounted.attempt.bind fun answer => ?_
  cases answer with
  | ok a => exact uncounted_pure a
  | error cause => exact uncounted_pure value

theorem Plain.uncounted {P : Call → Prop} (plain : d.Plain P) : d.Uncounted := by
  intro oracle s
  obtain ⟨calls, log, -⟩ := plain.leaves oracle s
  rw [log]
  rfl

theorem Makes.uncounted {calls : List Call} (makes : d.Makes calls) : d.Uncounted := by
  intro oracle s
  obtain ⟨result, -, run⟩ := makes oracle s
  rw [run]
  rfl

theorem Single.uncounted (single : d.Single) : d.Uncounted := by
  obtain ⟨c, makes⟩ := single
  exact makes.uncounted

theorem Inquires.uncounted {c : Call} {read : c.Reply → Checked α} (inquires : d.Inquires c read) :
    d.Uncounted := inquires.makes.uncounted

theorem uncounted_answer {c : Call} (view : c.Reply → Answer α) :
    (ask c >>= fun reply => ofAnswer (view reply)).Uncounted := (inquires_answer view).uncounted

end Dialogue

section Chains

theorem StellarServer.uncounted_operations (server : StellarServer) (id : String) :
    (server.operations id).Uncounted := by
  cases server with
  | external name => exact uncounted_answer (c := .stellarOperations name id) fun reply => reply
  | http base => exact (taken_inquires _ _).uncounted

theorem ChainClient.uncounted_history (chain : ChainClient) (account : String) :
    (chain.history account).Uncounted := by
  cases chain with
  | external name currency =>
    exact uncounted_answer (c := .chainHistory name account) fun reply => reply
  | indexer currency base =>
    refine (Indexer.find_inquires _ _ _).uncounted.bind fun listed => ?_
    cases listed with
    | some listed => exact uncounted_pure _
    | none => exact uncounted_pure _
  | stellar server network =>
    refine (server.uncounted_operations account).attempt.bind fun answer => ?_
    cases answer with
    | ok operations => exact uncounted_pure _
    | error cause =>
      simp only
      split
      · exact uncounted_pure _
      · exact uncounted_fail _
  | evm currency url gasLimit => exact (uncounted_ofChecked _).bind fun _ => uncounted_pure _

end Chains

section Accounts

theorem Backend.uncounted_balance (backend : Backend) (currency : Currency) :
    (backend.balance currency).Uncounted := by
  cases backend with
  | onChain chain address =>
    exact (chain.balance_plain address).uncounted.bind fun _ => uncounted_pure _
  | trading custodian => exact (custodian.tradingBalance_single currency).uncounted
  | addressOnly address => exact uncounted_pure _
  | external name => exact uncounted_answer (c := .accountBalance name) fun reply => reply

theorem Backend.uncounted_activity (backend : Backend) : backend.activity.Uncounted := by
  cases backend with
  | onChain chain address => exact (chain.uncounted_history address).bind fun _ => uncounted_pure _
  | trading custodian => exact uncounted_pure _
  | addressOnly address => exact uncounted_pure _
  | external name => exact uncounted_answer (c := .accountActivity name) fun reply => reply

theorem Account.uncounted_receiveAddress (account : Account) : account.receiveAddress.Uncounted :=
  account.receiveAddress_makes.uncounted

theorem Account.uncounted_balance (account : Account) {query : Dialogue Amount}
    (asked : account.cryptoBalance? = some query) : query.Uncounted := by
  cases account with
  | crypto a =>
    cases asked
    exact (a.backend.uncounted_balance a.currency).bind fun _ => uncounted_pure _
  | interest a =>
    cases asked
    exact (a.custodian.interestBalance_single a.currency).uncounted.bind fun _ => uncounted_pure _
  | fiat a => cases asked

theorem AccountGroup.uncounted_addBalances (totals : Totals) (accounts : List Account) :
    (addBalances totals accounts).Uncounted := by
  induction accounts generalizing totals with
  | nil => exact uncounted_pure totals
  | cons account rest ih =>
    rw [addBalances]
    cases asked : account.cryptoBalance? with
    | none => exact ih totals
    | some query =>
      exact (account.uncounted_balance asked).bind fun amount =>
        (uncounted_ofChecked _).bind fun next => ih next

end Accounts

section Loading

variable {labels : Labels}

theorem Asset.uncounted_openAccount (a : Asset) (label : String) (custody : Custody)
    (permissions : Permissions) (backend : Backend) :
    (a.openAccount label custody permissions backend).Uncounted :=
  uncounted_freshId.bind fun _ => uncounted_pure _

theorem Asset.uncounted_openAll {α β : Type} {f : α → Dialogue β} (each : ∀ a, (f a).Uncounted)
    (l : List α) : (openAll f l).Uncounted := by
  induction l with
  | nil => exact uncounted_pure []
  | cons a rest ih => exact (each a).bind fun _ => ih.bind fun _ => uncounted_pure _

theorem WalletRecords.uncounted_entries (records : WalletRecords) (currency : Currency) :
    (records.entries currency).Uncounted := by
  cases records with
  | payload p => exact uncounted_ofChecked _
  | external => exact uncounted_answer (c := .walletEntries currency) fun reply => reply

namespace Asset

variable (a : Asset) (labels : Labels)

theorem uncounted_nonCustodialAccounts : (a.nonCustodialAccounts labels).Uncounted := by
  have entries := a.parties.records.uncounted_entries a.currency
  have opened (chain : ChainClient) (entry : WalletEntry) :
      (a.openWalletAccount labels chain entry).Uncounted := a.uncounted_openAccount _ _ _ _
  unfold nonCustodialAccounts
  split
  · exact entries.bind fun _ => uncounted_openAll (opened _) _
  · exact entries.bind fun _ => uncounted_openAll (opened _) _
  · refine entries.attempt.bind fun answer => ?_
    split
    · exact (a.uncounted_openAccount _ _ _ _).bind fun _ => uncounted_pure _
    · exact uncounted_pure _
  · exact uncounted_answer (c := .assetNonCustodial _ _) fun reply => reply

theorem uncounted_custodialAccounts : (a.custodialAccounts labels).Uncounted := by
  unfold custodialAccounts
  split
  · exact uncounted_answer (c := .assetCustodial _ _) fun reply => reply
  · exact (a.uncounted_openAccount _ _ _ _).bind fun _ => uncounted_pure _

theorem uncounted_interestAccounts : (a.interestAccounts labels).Uncounted := by
  unfold interestAccounts
  split
  · exact uncounted_pure _
  · exact uncounted_answer (c := .assetInterest _ _) fun reply => reply
  · refine (a.parties.custodian.interestBalance_single a.currency).uncounted.bind fun found => ?_
    cases found with
    | some balance => exact uncounted_freshId.bind fun _ => uncounted_pure _
    | none => exact uncounted_pure _

theorem uncounted_load : (a.load labels).Uncounted :=
  ((a.uncounted_nonCustodialAccounts labels).orElse []).bind fun _ =>
    (a.uncounted_custodialAccounts labels).bind fun _ =>
      ((a.uncounted_interestAccounts labels).orElse []).bind fun _ => uncounted_pure _

end Asset

theorem Listing.uncounted_load (l : Listing) (labels : Labels) : (l.load labels).Uncounted := by
  cases l with
  | crypto a => exact a.uncounted_load labels
  | fiat a =>
    refine a.custodian.fiatCurrencies_single.uncounted.bind fun codes => ?_
    exact Asset.uncounted_openAll (fun _ => uncounted_freshId.bind fun _ => uncounted_pure _) codes

theorem Listing.uncounted_accounts (l : Listing) (labels : Labels) :
    (l.accounts labels).Uncounted := by
  rw [accounts_eq]
  refine uncounted_session.bind fun s => ?_
  split
  next => exact uncounted_pure _
  next =>
    refine (l.uncounted_load labels).bind fun found => ?_
    have kept : (modify fun s => s.keep found l.shelf).Uncounted := by
      intro oracle s
      cases l <;> rfl
    exact kept.bind fun _ => uncounted_pure _

theorem Asset.uncounted_accounts (a : Asset) (labels : Labels) :
    (a.accounts labels).Uncounted :=
  (Listing.crypto a).uncounted_accounts labels

theorem FiatAsset.uncounted_accounts (a : FiatAsset) (labels : Labels) :
    (a.accounts labels).Uncounted := (Listing.fiat a).uncounted_accounts labels

theorem Asset.uncounted_group (a : Asset) (labels : Labels) (filter : AccountFilter) :
    (a.group labels filter).Uncounted :=
  (a.uncounted_accounts labels).bind fun _ => uncounted_pure _

theorem FiatAsset.uncounted_group (a : FiatAsset) (labels : Labels) :
    (a.group labels).Uncounted := (a.uncounted_accounts labels).bind fun _ => uncounted_pure _

end Loading

namespace Registry

variable (r : Registry)

theorem uncounted_gather (labels : Labels) (assets : List Asset) :
    (gather labels assets).Uncounted := by
  induction assets with
  | nil => exact uncounted_pure []
  | cons a rest ih =>
    exact (a.uncounted_group labels .all).bind fun _ => ih.bind fun _ => uncounted_pure _

theorem uncounted_allWallets : r.allWallets.Uncounted :=
  (uncounted_gather r.labels r.enabledAssets).bind fun _ =>
    (r.fiat.uncounted_group r.labels).bind fun _ => uncounted_pure _

theorem uncounted_asset {α : Type} {d : Asset → Dialogue α} (each : ∀ a, (d a).Uncounted)
    (currency : Currency) : (do let a ← r.asset currency; d a : Dialogue α).Uncounted :=
  (uncounted_ofChecked (r.asset currency)).bind each

theorem uncounted_targets (source : CryptoAccount) (action : Action) :
    (r.targets source action).Uncounted := by
  have others : (do
      let asset ← r.asset source.currency
      let own ← asset.otherAccounts r.labels source
      return own ++ (← r.fiat.accounts r.labels) : Dialogue (List Account)).Uncounted := by
    refine r.uncounted_asset (fun a => ?_) source.currency
    refine Uncounted.bind (d := a.otherAccounts r.labels source) ?_ fun _ => ?_
    next => exact (a.uncounted_accounts r.labels).bind fun _ => uncounted_pure _
    exact (r.fiat.uncounted_accounts r.labels).bind fun _ => uncounted_pure _
  have candidates : (r.candidates source action).Uncounted := by
    cases action with
    | swap => exact r.uncounted_allWallets.bind fun _ => uncounted_pure _
    | viewActivity | send | receive | sell | interestDeposit | summary => exact others
  exact candidates.bind fun _ => uncounted_pure _

theorem uncounted_resolveAll (accounts : List Account) : (resolveAll accounts).Uncounted := by
  induction accounts with
  | nil => exact uncounted_pure []
  | cons account rest ih =>
    exact account.uncounted_receiveAddress.attempt.bind fun _ => ih.bind fun _ => uncounted_pure _

theorem uncounted_findByAddress (currency : Currency) (text : String) :
    (r.findByAddress currency text).Uncounted := by
  refine r.uncounted_asset (fun a => ?_) currency
  refine (a.uncounted_group r.labels .all).bind fun group => ?_
  cases group with
  | none => exact uncounted_pure none
  | some group => exact (uncounted_resolveAll group.accounts).bind fun _ => uncounted_pure _

end Registry

namespace Status

variable (r : Registry)

theorem uncounted_wallets : (wallets r).Uncounted := by
  refine r.uncounted_allWallets.attempt.bind fun answer => ?_
  cases answer with
  | ok group => exact uncounted_pure _
  | error cause => exact uncounted_pure _

theorem uncounted_findAccount (ticker query : String) : (findAccount r ticker query).Uncounted := by
  unfold findAccount
  split
  next => exact uncounted_pure _
  next =>
    split
    next => exact uncounted_pure _
    next => exact uncounted_pure _
    next =>
      refine (r.uncounted_findByAddress _ _).attempt.bind fun answer => ?_
      split
      · exact uncounted_pure _
      · exact uncounted_pure _
      · exact uncounted_pure _

theorem uncounted_respond (method target : String) : (respond r method target).Uncounted := by
  have visited (page : Page) (query : String) : (visit r page query).Uncounted := by
    cases page with
    | health => exact uncounted_pure _
    | assets => exact uncounted_pure _
    | wallets => exact uncounted_wallets r
    | accounts ticker => exact uncounted_findAccount r ticker query
  unfold respond
  simp only
  cases Page.ofPath? (String.ofList (target.toList.takeWhile (· != '?'))) with
  | none => exact uncounted_pure _
  | some page =>
    simp only
    split
    next => exact visited _ _
    next =>
      split
      next => exact (visited _ _).bind fun _ => uncounted_pure _
      next => exact uncounted_pure _

end Status

section Transfers

theorem CryptoAccount.uncounted_sender (a : CryptoAccount) : a.sender.Uncounted :=
  a.sender_plain.uncounted

theorem Asset.uncounted_engine (a : Asset) (source : CryptoAccount) (target : Target) :
    (a.engine source target).Uncounted := (a.engine_makes source target).uncounted

theorem FeeSource.uncounted_schedule (source : FeeSource) (currency : Currency) :
    (source.schedule currency).Uncounted := (source.schedule_plain currency).uncounted

theorem Payment.uncounted_build (p : Payment) (amount : Amount) (sender : Sender)
    (destination : String) (memo : Option String) (schedule : FeeSchedule) (type : FeeType) :
    (p.build amount sender destination memo schedule type).Uncounted :=
  (p.chain.build_plain _).uncounted.bind fun _ => uncounted_pure _

theorem Payment.uncounted_fee (p : Payment) (amount : Amount) (sender : Sender)
    (destination : String) (schedule : FeeSchedule) (type : FeeType) :
    (p.fee amount sender destination schedule type).Uncounted :=
  (p.uncounted_build _ _ _ _ _ _).bind fun _ => uncounted_ofChecked _

theorem Payment.uncounted_maximum (p : Payment) (sender : Sender) (schedule : FeeSchedule)
    (type : FeeType) : (p.maximum sender schedule type).Uncounted :=
  (p.chain.maximum_plain _ _).uncounted

theorem MeteredPayment.uncounted_fee (m : MeteredPayment) (amount : Amount) (sender : Sender)
    (destination : String) : (m.fee amount sender destination).Uncounted :=
  (m.fees.uncounted_schedule _).bind fun _ => m.payment.uncounted_fee _ _ _ _ _

namespace Engine

variable (engine : Engine)

theorem uncounted_validate : engine.validate.Uncounted := by
  induction engine with
  | onChain t => exact (uncounted_ofChecked _).bind fun _ => uncounted_pure _
  | stellar t => exact (uncounted_ofChecked _).bind fun _ => uncounted_pure _
  | withdrawal w => exact uncounted_ofChecked _
  | trade t =>
    refine (uncounted_ofChecked _).bind fun _ => ?_
    split
    · exact uncounted_pure _
    · exact uncounted_fail _
  | fundedTrade t deposit ih => exact (uncounted_ofChecked _).bind fun _ => ih
  | external name level => exact uncounted_answer (c := .engineValidate name) fun reply => reply

theorem uncounted_fee (amount : Amount) (level : FeeLevel) :
    (engine.fee amount level).Uncounted := by
  induction engine with
  | onChain t =>
    exact (uncounted_ofChecked _).bind fun _ => t.source.uncounted_sender.bind fun _ =>
      (t.metered level).uncounted_fee _ _ _
  | stellar t =>
    exact (uncounted_ofChecked _).bind fun _ => t.source.uncounted_sender.bind fun _ =>
      (t.fees.uncounted_schedule _).bind fun _ => t.payment.uncounted_fee _ _ _ _ _
  | withdrawal w =>
    exact (w.custodian.withdrawalFee_single _).uncounted.bind fun _ => uncounted_pure _
  | trade t => exact uncounted_pure _
  | fundedTrade t deposit ih => exact ih
  | external name own =>
    exact uncounted_answer (c := .engineFee name amount level) fun reply => reply

end Engine

end Transfers

end MultiWallet
