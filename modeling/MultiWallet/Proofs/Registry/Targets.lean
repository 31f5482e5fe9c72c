import MultiWallet.Proofs.Registry.Accounts
import MultiWallet.Proofs.Trade

set_option autoImplicit false

namespace MultiWallet

open Dialogue

theorem chainAddress_of {source : CryptoAccount} {address : String}
    (visible : Text.Visible address) :
    chainAddress source (.address (.of source.currency address)) =
      .ok (.of source.currency address) :=
  chainAddress_eq_ok.2 ⟨rfl, visible, rfl⟩

theorem Asset.engine_valid {a : Asset} (standard : a.Standard) (spendable : a.currency ≠ .stx)
    {source : CryptoAccount} (own : source.currency = a.currency) {address : String}
    (visible : Text.Visible address) :
    ∃ engine, (∀ oracle s, (a.engine source (.address (.of source.currency address))).run oracle s =
        (.ok engine, s)) ∧
      ∀ oracle s, engine.validate.run oracle s = (.ok (), s) := by
  have checked : chainAddress source (.address (.of source.currency address)) = .ok _ :=
    chainAddress_of visible
  unfold Asset.engine
  cases standard with
  | onChain chain preference kind currency =>
    rw [kind]
    refine ⟨_, fun _ _ => rfl, fun oracle s => ?_⟩
    simp only [Engine.validate, checked]
    rfl
  | stellar chain preference kind currency =>
    rw [kind]
    refine ⟨_, fun _ _ => rfl, fun oracle s => ?_⟩
    have fits : StellarTransfer.destination
        { source, target := .address (.of source.currency address), payment := a.payment chain
          fees := a.parties.fees, preference } = .ok (.of source.currency address) := by
      rw [StellarTransfer.destination, checked]
      simp [Address.of, own, currency, bind, Except.bind, pure, Except.pure]
    simp only [Engine.validate, fits]
    rfl
  | addressOnly kind currency => exact absurd currency spendable

theorem Withdrawal.run_validate {source : CryptoAccount} {address : Address}
    (custody : source.isCustodial = true)
    (checked : chainAddress source (.address address) = .ok address) (custodian : Custodian)
    (oracle : Oracle) (s : Session) :
    (Engine.withdrawal { source, target := .address address, custodian }).validate.run oracle s =
      (.ok (), s) := by
  simp only [Engine.validate, Withdrawal.validate, custody, checked]
  rfl

namespace Registry

variable {r : Registry} {oracle : Oracle} {source : CryptoAccount} {action : Action}
  {target : Account}

theorem asset_of_registered {a : Asset} (registered : a ∈ r.assets) :
    ∃ b ∈ r.assets, b.currency = a.currency ∧ r.asset a.currency = .ok b := by
  cases found : r.asset? a.currency with
  | none =>
    have := List.find?_eq_none.1 found a registered
    simp at this
  | some b =>
    refine ⟨b, List.mem_of_find?_eq_some found, by simpa using List.find?_some found, ?_⟩
    simp [asset, found, orFail]

/-- A fiat account, or one that an asset has opened, of the source's currency unless that is
swapped. -/
def Candidate (r : Registry) (source : CryptoAccount) (action : Action) (account : Account) :
    Prop :=
  account.isFiat = true ∨
    ∃ a ∈ r.assets, a.Opened account ∧ (action ≠ .swap → a.currency = source.currency)

section Offered

variable (configured : r.Configured) (obliging : r.Obliging oracle)

include configured obliging

theorem answers_allWallets :
    r.Answers oracle (fun group => ∀ account ∈ group.accounts, r.Candidate source .swap account)
      r.allWallets := by
  have enabled : ∀ a ∈ r.enabledAssets, a ∈ r.assets := fun _ => List.mem_of_mem_filter
  refine (answers_gather configured obliging enabled).bind fun crypto loaded => ?_
  have fiat : r.Answers oracle (fun group => ∀ account ∈ members group, account.isFiat = true)
      (r.fiat.group r.labels) :=
    (answers_fiat obliging).bind fun accounts isFiat =>
      answers_pure (by rwa [members_ofAccounts?])
  refine fiat.bind fun group isFiat => answers_pure ?_
  intro account member
  rcases List.mem_append.1 member with member | member
  · obtain ⟨currency, own, loaded, member⟩ := loaded account member
    obtain ⟨a, registered, -, opened⟩ := loaded.opened configured obliging member
    exact .inr ⟨a, registered, opened, fun other => absurd rfl other⟩
  · exact .inl (isFiat account member)

theorem answers_others {a : Asset} (registered : a ∈ r.assets)
    (own : source.currency = a.currency) :
    r.Answers oracle (fun accounts => ∀ account ∈ accounts, r.Candidate source action account) (do
      let asset ← r.asset source.currency
      let own ← asset.otherAccounts r.labels source
      return own ++ (← r.fiat.accounts r.labels)) := by
  obtain ⟨b, listed, same, found⟩ := asset_of_registered registered
  rw [own, found]
  have others : r.Answers oracle
      (fun accounts => ∀ account ∈ accounts, r.Candidate source action account)
      (b.otherAccounts r.labels source) := by
    refine (answers_accounts configured obliging listed).bind fun accounts loaded => ?_
    refine answers_pure fun account member => ?_
    obtain ⟨c, registered, currency, opened⟩ :=
      loaded.opened configured obliging (List.mem_of_mem_filter member)
    exact .inr ⟨c, registered, opened, fun _ => by rw [currency, same, own]⟩
  refine others.bind fun own known => ?_
  refine (answers_fiat obliging).bind fun fiat isFiat => answers_pure fun account member => ?_
  rcases List.mem_append.1 member with member | member
  · exact known account member
  · exact .inl (isFiat account member)

theorem answers_targets {a : Asset} (registered : a ∈ r.assets)
    (own : source.currency = a.currency) :
    r.Answers oracle (fun targets => ∀ target ∈ targets,
        r.Candidate source action target ∧ isEligible action source target = true)
      (r.targets source action) := by
  have candidates : r.Answers oracle
      (fun accounts => ∀ account ∈ accounts, r.Candidate source action account)
      (r.candidates source action) := by
    cases action with
    | swap => exact (answers_allWallets configured obliging).bind fun _ known => answers_pure known
    | viewActivity | send | receive | sell | summary | interestDeposit =>
      exact answers_others configured obliging registered own
  refine candidates.bind fun accounts known => answers_pure fun target member => ?_
  obtain ⟨member, eligible⟩ := List.mem_filter.1 member
  exact ⟨known target member, eligible⟩

end Offered

/-- At any time a transfer to the account can be started, and its inputs are in order. -/
def Usable (r : Registry) (oracle : Oracle) (source : CryptoAccount) (target : Account)
    (action : Action) : Prop :=
  ∀ s, ∃ p t,
    (r.startTransfer (.crypto source) (.account target) action).run oracle s = (.ok p, t) ∧
      ∀ u, ∃ v, p.validate.run oracle u = (.ok (), v)

/-- An engine for the action can be had at any time, and its inputs are in order. -/
def Served (oracle : Oracle) (asset : Asset) (custodian : Custodian) (source : CryptoAccount)
    (target : Account) (action : Action) : Prop :=
  ∀ s, ∃ engine t,
    (Processor.chooseEngine asset custodian source (.account target) action).run oracle s =
        (.ok engine, t) ∧
      ∀ u, ∃ v, engine.validate.run oracle u = (.ok (), v)

theorem usable_of_served {asset : Asset} (found : r.asset source.currency = .ok asset)
    (permitted : source.permits action = true)
    (served : Served oracle asset r.custodian source target action) :
    r.Usable oracle source target action := by
  intro s
  obtain ⟨engine, t, chosen, valid⟩ := served s
  have started : (r.startTransfer (.crypto source) (.account target) action).run oracle s =
      (.ok { id := t.nextId, source, target := .account target, action, engine },
        { t with counted := t.counted ++ [.created action], nextId := t.nextId + 1 }) := by
    rw [startTransfer, found]
    exact Processor.run_create_eq_ok.2 ⟨permitted, engine, t, chosen, rfl, rfl⟩
  exact ⟨_, _, started, valid⟩

theorem Obliging.receives (obliging : r.Obliging oracle) {a : Asset} (registered : a ∈ r.assets)
    {c : CryptoAccount} (addressed : c.Addressed a.parties.custodian) (s : Session) :
    ∃ address t, c.receiveAddress.run oracle s = (.ok (.of c.currency address), t) ∧
      Text.Visible address := by
  have known : ∃ address t, (c.backend.receiveAddress c.currency).run oracle s = (.ok address, t) ∧
      Text.Visible address := by
    unfold CryptoAccount.Addressed at addressed
    split at addressed
    next chain address backend =>
      rw [backend]
      exact ⟨address, s, rfl, addressed⟩
    next address backend =>
      rw [backend]
      exact ⟨address, s, rfl, addressed⟩
    next custodian backend =>
      rw [backend, addressed]
      refine obliging.deposits _ ?_ c.currency s
      exact List.mem_cons_of_mem _ (List.mem_map_of_mem registered)
    next => cases addressed
  obtain ⟨address, t, run, visible⟩ := known
  exact ⟨address, t, by rw [CryptoAccount.receiveAddress, run_bind_ok run]; rfl, visible⟩

theorem not_started_interest {b : Asset} (found : r.asset source.currency = .ok b)
    (permitted : source.permits .send = true) (account : InterestAccount) (s : Session) :
    ((r.startTransfer (.crypto source) (.account (.interest account)) .send).run oracle s).1 =
      fail (.unsupportedTransaction "send to interest account") := by
  have refused :
      (Processor.create b r.custodian source (.account (.interest account)) .send).run oracle s =
        (fail (.unsupportedTransaction "send to interest account"), s) := by
    rw [Processor.create, if_pos permitted]
    rfl
  rw [startTransfer, found]
  exact congrArg Prod.fst refused

section Engines

variable (obliging : r.Obliging oracle) {b : Asset} (standard : b.Standard)
  (spendable : b.currency ≠ .stx) (own : source.currency = b.currency)

include obliging standard spendable own

theorem served_send {a : Asset} (registered : a ∈ r.assets) {c : CryptoAccount}
    (addressed : c.Addressed a.parties.custodian) (same : c.currency = source.currency) :
    Served oracle b r.custodian source (.crypto c) .send := by
  intro s
  obtain ⟨address, t, received, visible⟩ := obliging.receives registered addressed s
  rw [same] at received
  obtain ⟨engine, chosen, valid⟩ := Asset.engine_valid standard spendable own visible
  have sent : (Processor.sendAddress (.account (.crypto c))).run oracle s =
    (.ok (.of source.currency address), t) := received
  cases custody : source.isCustodial with
  | true =>
    refine ⟨.withdrawal { source, target := .address (.of source.currency address)
                          custodian := r.custodian }, t, ?_, fun u => ⟨u, ?_⟩⟩
    · rw [Processor.chooseEngine, Processor.sendEngine, run_bind_ok sent]
      simp [custody]
    · exact Withdrawal.run_validate custody (chainAddress_of visible) _ _ _
  | false =>
    refine ⟨engine, t, ?_, fun u => ⟨u, valid oracle u⟩⟩
    rw [Processor.chooseEngine, Processor.sendEngine, run_bind_ok sent]
    simp [custody, chosen]

theorem served_trade {kind : OrderKind} {proceeds : Proceeds}
    (trades : action = .sell ∨ action = .swap)
    (traded : Processor.tradeTarget action (.account target) = .ok (kind, target))
    (known : ({ source, target, kind, custodian := r.custodian : Trade }).proceeds = .ok proceeds) :
    Served oracle b r.custodian source target action := by
  intro s
  have chooses : Processor.chooseEngine b r.custodian source (.account target) action =
      Processor.tradeEngine b r.custodian source action (.account target) := by
    rcases trades with rfl | rfl <;> rfl
  rw [chooses]
  cases custody : source.isCustodial with
  | true =>
    refine ⟨.trade { source, target, kind, custodian := r.custodian }, s, ?_, fun u => ⟨u, ?_⟩⟩
    · simp only [Processor.tradeEngine, traded, custody]
      rfl
    · simp only [Engine.validate, known, custody]
      rfl
  | false =>
    obtain ⟨address, t, given, visible⟩ :=
      obliging.deposits r.custodian List.mem_cons_self source.currency s
    obtain ⟨engine, chosen, valid⟩ := Asset.engine_valid standard spendable own visible
    refine ⟨.fundedTrade { source, target, kind, custodian := r.custodian } engine, t, ?_,
      fun u => ⟨u, ?_⟩⟩
    · simp only [Processor.tradeEngine, traded, custody]
      change (do
        let address ← r.custodian.depositAddress source.currency
        let deposit ← b.engine source (.address (.of source.currency address))
        return Engine.fundedTrade { source, target, kind, custodian := r.custodian } deposit).run
          oracle s = _
      rw [run_bind_ok given, run_bind_ok (chosen oracle t)]
      rfl
    · simp only [Engine.validate, known]
      exact valid oracle u

theorem usable_sell (found : r.asset source.currency = .ok b)
    (permitted : source.permits .sell = true) (eligible : isEligible .sell source target = true) :
    r.Usable oracle source target .sell := by
  cases target with
  | fiat account =>
    exact usable_of_served found permitted
      (served_trade obliging standard spendable own (.inl rfl) rfl rfl)
  | crypto account => cases eligible
  | interest account => cases eligible

theorem usable_swap (found : r.asset source.currency = .ok b)
    (permitted : source.permits .swap = true) (eligible : isEligible .swap source target = true) :
    r.Usable oracle source target .swap := by
  cases target with
  | crypto account =>
    have other : account.currency ≠ source.currency := by
      simp only [isEligible, Bool.and_eq_true, bne_iff_ne] at eligible
      exact eligible.1
    have known :
        ({ source, target := .crypto account, kind := .swap
           custodian := r.custodian : Trade }).proceeds = .ok (.crypto account.currency) := by
      simp [Trade.proceeds, other]
    exact usable_of_served found permitted
      (served_trade obliging standard spendable own (.inr rfl) rfl known)
  | fiat account => cases eligible
  | interest account => cases eligible

end Engines

/-- Every target that is offered can be used, except for interest accounts: those are offered to
send to, and refused. -/
theorem targets_usable (r : Registry) (oracle : Oracle) (s : Session) (source : CryptoAccount)
    (action : Action) (configured : r.Configured) (obliging : r.Obliging oracle)
    (keeps : r.Keeps oracle s) (currency : Currency) (own : List Account)
    (loaded : r.Loaded oracle currency own) (listed : .crypto source ∈ own)
    (transfers : action = .send ∨ action = .sell ∨ action = .swap)
    (permitted : source.permits action = true) :
    ∃ targets t, (r.targets source action).run oracle s = (.ok targets, t) ∧ r.Keeps oracle t ∧
      ∀ target ∈ targets,
        (∀ account, target ≠ .interest account) ∧ r.Usable oracle source target action ∨
        (∃ account, target = .interest account) ∧ action = .send ∧
          ∀ u, ((r.startTransfer (.crypto source) (.account target) action).run oracle u).1 =
            fail (.unsupportedTransaction "send to interest account") := by
  obtain ⟨a, registered, -, opened⟩ := loaded.opened configured obliging listed
  cases opened with
  | crypto _ same addressed frozen =>
    obtain ⟨targets, t, run, known, kept⟩ :=
      answers_targets configured obliging registered same s keeps
    refine ⟨targets, t, run, kept, ?_⟩
    intro target member
    obtain ⟨candidate, eligible⟩ := known target member
    -- Which asset opened the source is not known, only which one is found for its currency.
    obtain ⟨b, standing, currency, found⟩ := asset_of_registered registered
    have standard := (configured b standing).standard
    have own : source.currency = b.currency := by rw [same, currency]
    have spendable : b.currency ≠ .stx := by
      intro stx
      have none := frozen (currency ▸ stx)
      simp [CryptoAccount.permits, none, Permissions.permits, Permissions.none] at permitted
    rw [← same] at found
    rcases transfers with rfl | rfl | rfl
    · rcases candidate with isFiat | ⟨d, registered, opened, sameCurrency⟩
      · simp [isEligible, isFiat] at eligible
      · cases opened with
        | crypto c currency addressed _ =>
          have same := currency.trans (sameCurrency (by decide))
          exact .inl ⟨fun _ => by simp, usable_of_served found permitted
            (served_send obliging standard spendable own registered addressed same)⟩
        | interest account =>
          exact .inr ⟨⟨account, rfl⟩, rfl, not_started_interest found permitted account⟩
    · have usable := usable_sell obliging standard spendable own found permitted eligible
      refine .inl ⟨?_, usable⟩
      rintro account rfl
      cases eligible
    · have usable := usable_swap obliging standard spendable own found permitted eligible
      refine .inl ⟨?_, usable⟩
      rintro account rfl
      cases eligible

def indexedParties : Parties :=
  { records := .external, custodian := .external, signer := .external, fees := .external
    reporter := .external }

def indexedBitcoins : Asset :=
  { currency := .btc, enabled := true, kind := .onChain (.indexerAt .btc "https://btc") none
    parties := indexedParties }

def bitcoinRegistry : Registry :=
  { records := .external, custodian := .external, reporter := .external, labels := {}
    assets := [indexedBitcoins] }

theorem bitcoinRegistry_configured : bitcoinRegistry.Configured := by
  intro a member
  rw [List.mem_singleton.1 member]
  exact ⟨indexedParties, { currency := .btc, enabled := true, networkUrl := some "https://btc"
                           feePreference := none, gasLimit := none, timeout := 0 }, rfl⟩

def ownBitcoins : CryptoAccount :=
  { id := 0, label := "mine", currency := .btc, custody := .nonCustodial
    permissions := .nonCustodial, backend := .onChain (.indexerAt .btc "https://btc") "bc1qmine" }

-- The custodian pays interest, and gives out this address.
def serving (address : String) : Oracle
  | _, .walletEntries _ => .ok [{ label := some "mine", address := "bc1qmine", archived := false }]
  | _, .fiatCurrencies => .ok ["USD"]
  | _, .interestBalance _ => .ok (some .zero)
  | _, .depositAddress _ => .ok address
  | _, c => c.refused

theorem serving_obliging : bitcoinRegistry.Obliging (serving "bc1qdep") where
  fiat _ := ⟨_, _, rfl⟩
  deposits custodian member currency s := by
    have external : custodian = .external := by
      simpa [custodians, bitcoinRegistry, indexedBitcoins, indexedParties] using member
    subst external
    exact ⟨_, _, rfl, by decide⟩
  entries a member := by
    rw [List.mem_singleton.1 member]
    rintro s _ _ ⟨⟩
    simp
    decide

theorem loaded_ownBitcoins (address : String) :
    ∃ own, bitcoinRegistry.Loaded (serving address) .btc own ∧ .crypto ownBitcoins ∈ own :=
  ⟨_, ⟨indexedBitcoins, List.mem_singleton_self _, rfl, .empty, _, rfl⟩, List.mem_cons_self⟩

theorem targets_usable_ownBitcoins :
    bitcoinRegistry.Configured ∧ bitcoinRegistry.Obliging (serving "bc1qdep") ∧
      bitcoinRegistry.Keeps (serving "bc1qdep") .empty ∧
      (∃ own, bitcoinRegistry.Loaded (serving "bc1qdep") .btc own ∧ .crypto ownBitcoins ∈ own) ∧
      ownBitcoins.permits .send = true ∧
      ∃ targets t, (bitcoinRegistry.targets ownBitcoins .send).run (serving "bc1qdep") .empty =
          (.ok targets, t) ∧
        targets.length = 2 ∧ ∃ target ∈ targets,
          bitcoinRegistry.Usable (serving "bc1qdep") ownBitcoins target .send := by
  obtain ⟨own, loaded, listed⟩ := loaded_ownBitcoins "bc1qdep"
  obtain ⟨targets, t, run, -, known⟩ := targets_usable bitcoinRegistry (serving "bc1qdep") .empty
    ownBitcoins .send bitcoinRegistry_configured serving_obliging (keeps_empty _ _) .btc own loaded
    listed (.inl rfl) rfl
  refine ⟨bitcoinRegistry_configured, serving_obliging, keeps_empty _ _, ⟨own, loaded, listed⟩, rfl,
    targets, t, run, ?_⟩
  cases run
  refine ⟨rfl, _, List.mem_cons_self, ?_⟩
  rcases known _ List.mem_cons_self with ⟨-, usable⟩ | ⟨⟨account, interest⟩, -⟩
  · exact usable
  · cases interest

theorem refused_blank {x : OnChainTransfer} {address : Address}
    (target : x.target = .address address)
    (blank : (Text.trim address.text.toList).isEmpty = true) (s : Session) :
    ((Engine.onChain x).validate.run oracle s).1 =
      fail (.contractViolation "target address is empty") := by
  have refused :
      chainAddress x.source x.target = fail (.contractViolation "target address is empty") := by
    rw [target, chainAddress, if_pos blank]
  rw [Engine.validate, refused]
  rfl

/-- Offered and yet of no use: an interest account, and an account whose address is but a space. -/
theorem offered_unusable :
    bitcoinRegistry.Configured ∧ ownBitcoins.permits .send = true ∧
      (∃ targets t account,
        (bitcoinRegistry.targets ownBitcoins .send).run (serving "bc1qdep") .empty =
            (.ok targets, t) ∧
          .interest account ∈ targets ∧
          ((bitcoinRegistry.startTransfer (.crypto ownBitcoins) (.account (.interest account))
            .send).run (serving "bc1qdep") t).1 =
              fail (.unsupportedTransaction "send to interest account")) ∧
      ∃ targets t target p u,
        (bitcoinRegistry.targets ownBitcoins .send).run (serving " ") .empty = (.ok targets, t) ∧
          target ∈ targets ∧
          (bitcoinRegistry.startTransfer (.crypto ownBitcoins) (.account target) .send).run
            (serving " ") t = (.ok p, u) ∧
          (p.validate.run (serving " ") u).1 =
            fail (.contractViolation "target address is empty") := by
  refine ⟨bitcoinRegistry_configured, rfl,
    ⟨_, _, _, rfl, List.mem_cons_of_mem _ List.mem_cons_self, ?_⟩,
    _, _, _, _, _, rfl, List.mem_cons_self, rfl, ?_⟩
  · exact not_started_interest rfl rfl _ _
  · exact refused_blank rfl rfl _

theorem run_startTransfer_eq_ok {source : Account} {target : Target} {p : Processor}
    {s t : Session} (started : (r.startTransfer source target action).run oracle s = (.ok p, t)) :
    ∃ account asset, source = .crypto account ∧ r.asset account.currency = .ok asset ∧
      (Processor.create asset r.custodian account target action).run oracle s = (.ok p, t) := by
  cases source with
  | crypto account =>
    obtain ⟨_, -, failed, -⟩ | ⟨asset, found, created⟩ := run_liftM_bind_cases started
    · cases failed
    · exact ⟨account, asset, rfl, found, created⟩
  | interest account => simp [startTransfer] at started
  | fiat account => simp [startTransfer] at started

theorem proceeds_of_validate {trade : Trade} {engine : Engine} {u v : Session}
    (trades : engine = .trade trade ∨ ∃ deposit, engine = .fundedTrade trade deposit)
    (validated : engine.validate.run oracle u = (.ok (), v)) :
    ∃ proceeds, trade.proceeds = .ok proceeds := by
  obtain rfl | ⟨deposit, rfl⟩ := trades <;>
    obtain ⟨_, -, failed, -⟩ | ⟨proceeds, known, -⟩ := run_liftM_bind_cases validated
  · cases failed
  · exact ⟨proceeds, known⟩
  · cases failed
  · exact ⟨proceeds, known⟩

/-- A target whose transfer is in order would have been offered. The one exception is a swap of
funds that the custodian holds: the wallet's own accounts are not offered for it, but they are
accepted. -/
theorem validated_eligible (r : Registry) (source target : Account) (action : Action)
    (creation : Oracle) (s t : Session) (p : Processor)
    (started : (r.startTransfer source (.account target) action).run creation s = (.ok p, t))
    (oracle : Oracle) (u v : Session) (validated : p.validate.run oracle u = (.ok (), v)) :
    ∃ account, source = .crypto account ∧
      (isEligible action account target = true ↔
        ¬ (action = .swap ∧ account.isCustodial = true ∧ target.isCustodial = false)) := by
  obtain ⟨account, asset, rfl, -, created⟩ := run_startTransfer_eq_ok started
  refine ⟨account, rfl, ?_⟩
  obtain ⟨-, engine, w, chosen, rfl, -⟩ := Processor.run_create_eq_ok.1 created
  cases action with
  | send =>
    cases target with
    | crypto c => simp [isEligible, Account.isFiat]
    | interest i =>
      simp [Processor.chooseEngine, Processor.sendEngine, Processor.sendAddress, run_bind] at chosen
    | fiat f =>
      simp [Processor.chooseEngine, Processor.sendEngine, Processor.sendAddress, run_bind] at chosen
  | sell =>
    obtain ⟨kind, other, traded, -⟩ := Processor.run_create_trade (.inl rfl) created
    obtain ⟨f, -, -, rfl, same⟩ | ⟨_, impossible, -⟩ := Processor.tradeTarget_eq_ok traded
    · cases same
      simp [isEligible, Account.isFiat]
    · cases impossible
  | swap =>
    obtain ⟨kind, other, traded, made⟩ := Processor.run_create_trade (.inr rfl) created
    obtain ⟨_, impossible, -⟩ | ⟨c, -, rfl, rfl, same⟩ := Processor.tradeTarget_eq_ok traded
    · cases impossible
    cases same
    let trade : Trade :=
      { source := account, target := .crypto c, kind := .swap, custodian := r.custodian }
    have trades : engine = .trade trade ∨ ∃ deposit, engine = .fundedTrade trade deposit := by
      obtain ⟨-, plain⟩ | ⟨-, _, deposit, _, _, -, -, funded⟩ := made
      · exact .inl plain
      · exact .inr ⟨deposit, funded⟩
    obtain ⟨proceeds, known⟩ := proceeds_of_validate trades validated
    have foreign : c.currency ≠ account.currency := fun same => by
      simp [trade, Trade.proceeds, same] at known
    cases held : account.isCustodial <;> cases other : c.isCustodial <;>
      simp [isEligible, Account.isCustodial, foreign, held, other]
  | viewActivity | receive | summary | interestDeposit => simp [Processor.chooseEngine] at chosen

def heldBitcoins : CryptoAccount :=
  { id := 1, label := "held", currency := .btc, custody := .custodial, permissions := .custodial
    backend := .trading .external }

def ownEther : CryptoAccount :=
  { id := 2, label := "ether", currency := .eth, custody := .nonCustodial
    permissions := .nonCustodial, backend := .addressOnly "0xmine" }

theorem validated_eligible_sale :
    ∃ p t v, (bitcoinRegistry.startTransfer (.crypto heldBitcoins) (.account Processor.dollars)
        .sell).run (serving "bc1qdep") .empty = (.ok p, t) ∧
      p.validate.run (serving "bc1qdep") t = (.ok (), v) ∧
      isEligible .sell heldBitcoins Processor.dollars = true := by
  refine ⟨_, _, _, rfl, rfl, ?_⟩
  obtain ⟨account, same, offered⟩ := validated_eligible bitcoinRegistry (.crypto heldBitcoins)
    Processor.dollars .sell (serving "bc1qdep") .empty _ _ rfl (serving "bc1qdep") .empty _ rfl
  cases same
  exact offered.2 (by simp)

theorem swap_unoffered :
    ∃ p t v, (bitcoinRegistry.startTransfer (.crypto heldBitcoins) (.account (.crypto ownEther))
        .swap).run (serving "bc1qdep") .empty = (.ok p, t) ∧
      p.validate.run (serving "bc1qdep") t = (.ok (), v) ∧
      isEligible .swap heldBitcoins (.crypto ownEther) = false :=
  ⟨_, _, _, rfl, rfl, rfl⟩

end Registry

end MultiWallet
