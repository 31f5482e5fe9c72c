import MultiWallet.Proofs.Registry.Targets
import MultiWallet.Proofs.Registry.Wallets

set_option autoImplicit false

namespace MultiWallet

open Dialogue

/-- The table of the actions: what may be sold for, swapped to, sent to. -/
def Action.Admits (source : CryptoAccount) (target : Account) : Action → Prop
  | .sell => target.isFiat = true
  | .swap => ∃ account, target = .crypto account ∧ account.currency ≠ source.currency ∧
      (source.isCustodial = true → account.isCustodial = true)
  | .send => target.isFiat = false
  | .viewActivity | .receive | .summary | .interestDeposit => True

theorem isEligible_iff (action : Action) (source : CryptoAccount) (target : Account) :
    isEligible action source target = true ↔ action.Admits source target := by
  cases action with
  | swap =>
    cases target with
    | crypto account => cases held : source.isCustodial <;> simp [isEligible, Action.Admits, held]
    | interest account | fiat account => simp [isEligible, Action.Admits]
  | sell => rfl
  | send => simp [isEligible, Action.Admits]
  | viewActivity | receive | summary | interestDeposit => simp [isEligible, Action.Admits]

instance (action : Action) (source : CryptoAccount) (target : Account) :
    Decidable (action.Admits source target) :=
  decidable_of_iff _ (isEligible_iff action source target)

namespace Registry

variable {r : Registry} {oracle : Oracle} {source : CryptoAccount} {action : Action}
  {s t : Session} {b : Asset} {result : Checked (List Account)}

/-- The accounts that come into question: all wallets for a swap, and else those of the source's
currency and the fiat accounts. -/
def pool (r : Registry) (source : CryptoAccount) : Action → Dialogue (List Account)
  | .swap => do return (← r.allWallets).accounts
  | _ => do
    let asset ← r.asset source.currency
    let own ← asset.accounts r.labels
    return own ++ (← r.fiat.accounts r.labels)

def around (r : Registry) (source : CryptoAccount) : Dialogue (List Account × List Account) := do
  let asset ← r.asset source.currency
  let own ← asset.accounts r.labels
  let fiat ← r.fiat.accounts r.labels
  return (own, fiat)

theorem pool_of_ne (stays : action ≠ .swap) :
    r.pool source action = (fun parts => parts.1 ++ parts.2) <$> r.around source := by
  cases action with
  | swap => exact absurd rfl stays
  | viewActivity | send | receive | sell | summary | interestDeposit => simp [pool, around]

theorem targets_of_ne (stays : action ≠ .swap) :
    r.targets source action =
      (fun parts => (parts.1.filter (fun account => account.id != source.id) ++ parts.2).filter
        (isEligible action source)) <$> r.around source := by
  cases action with
  | swap => exact absurd rfl stays
  | viewActivity | send | receive | sell | summary | interestDeposit =>
    simp [targets, candidates, Asset.otherAccounts, around]

theorem pool_swap (r : Registry) (source : CryptoAccount) :
    r.pool source .swap = AccountGroup.accounts <$> r.allWallets := by
  simp [pool]

theorem targets_swap (r : Registry) (source : CryptoAccount) :
    r.targets source .swap =
      (fun group => group.accounts.filter (isEligible .swap source)) <$> r.allWallets := by
  simp [targets, candidates]

theorem targets_eq_error_iff {halt : Halt} :
    (r.targets source action).run oracle s = (.error halt, t) ↔
      (r.pool source action).run oracle s = (.error halt, t) := by
  by_cases swaps : action = .swap
  next =>
    subst swaps
    rw [targets_swap, pool_swap, run_map_eq_error, run_map_eq_error]
  next => rw [targets_of_ne swaps, pool_of_ne swaps, run_map_eq_error, run_map_eq_error]

def held (r : Registry) (t : Session) : List Account := r.listings.flatMap fun l => t.lists l.shelf

/-- What the registry has at hand is as it should be: under each currency are accounts of that
currency, fiat accounts are apart, and no two have the same identity. -/
structure Orderly (r : Registry) (t : Session) : Prop where
  currency : ∀ a ∈ r.assets, ∀ account ∈ t.lists (.crypto a.currency),
    account.currency? = some a.currency
  fiat : ∀ account ∈ t.lists .fiat, account.isFiat = true
  distinct : ((r.held t).map Account.id).Nodup

def poolOf (r : Registry) (lists : Shelf → List Account) (source : CryptoAccount)
    (action : Action) : List Account :=
  (r.wanted (.targets source action)).flatMap fun l => lists l.shelf

theorem asset_eq_ok {currency : Currency} :
    r.asset currency = .ok b ↔ r.asset? currency = some b := by
  unfold asset
  cases r.asset? currency <;> simp [orFail]

theorem draws_around (found : r.asset? source.currency = some b) :
    Draws r.labels [.crypto b, .fiat r.fiat] (r.around source) fun lists =>
      pure (lists (.crypto b.currency), lists .fiat) := by
  have own : Draws r.labels [.crypto b] (b.accounts r.labels) _ := draws_accounts (.crypto b)
  have both := own.append fun own =>
    (draws_accounts (.fiat r.fiat)).bind fun fiat => pure (own, fiat)
  simpa [around, asset_eq_ok.2 found, liftM_ok_bind, Listing.shelf, Listing.accounts] using both

theorem poolOf_of_ne (found : r.asset? source.currency = some b) (stays : action ≠ .swap)
    (lists : Shelf → List Account) :
    r.poolOf lists source action = lists (.crypto b.currency) ++ lists .fiat := by
  cases action with
  | swap => exact absurd rfl stays
  | viewActivity | send | receive | sell | summary | interestDeposit =>
    simp [poolOf, wanted, found, Listing.shelf]

theorem filter_others {own fiat : List Account}
    (known : ∀ account ∈ own, account.id = source.id ↔ account = .crypto source)
    (isFiat : ∀ account ∈ fiat, account.isFiat = true) :
    (own.filter (fun account => account.id != source.id) ++ fiat).filter
        (isEligible action source) =
      (own ++ fiat).filter fun target => action.Admits source target ∧ target ≠ .crypto source := by
  rw [List.filter_append, List.filter_append, List.filter_filter]
  congr 1
  next =>
    apply List.filter_congr
    intro account member
    rw [Bool.eq_iff_iff]
    simp [isEligible_iff, known account member]
  next =>
    apply List.filter_congr
    intro account member
    have other : account ≠ .crypto source := by
      rintro rfl
      cases isFiat _ member
    rw [Bool.eq_iff_iff]
    simp [isEligible_iff, other]

theorem filter_swap (wallets : List Account) :
    wallets.filter (isEligible .swap source) =
      wallets.filter fun target => Action.swap.Admits source target ∧ target ≠ .crypto source := by
  apply List.filter_congr
  intro account member
  rw [Bool.eq_iff_iff]
  simp only [isEligible_iff, decide_eq_true_eq]
  constructor
  · intro admits
    refine ⟨admits, ?_⟩
    rintro rfl
    obtain ⟨_, ⟨⟩, foreign, -⟩ := admits
    exact foreign rfl
  · intro offered
    exact offered.1

theorem wanted_sublist (found : r.asset? source.currency = some b) :
    (r.wanted (.targets source action)).Sublist r.listings := by
  have registered : b ∈ r.assets := List.mem_of_find?_eq_some found
  have others : [Listing.crypto b, .fiat r.fiat].Sublist r.listings :=
    (List.singleton_sublist.2 (List.mem_map_of_mem registered)).append (List.Sublist.refl [_])
  cases action with
  | swap => exact r.everything_sublist
  | viewActivity | send | receive | sell | summary | interestDeposit =>
    simpa [wanted, found] using others

theorem mem_held (found : r.asset? source.currency = some b) {account : Account}
    (member : account ∈ t.lists (.crypto b.currency)) : account ∈ r.held t := by
  have registered : b ∈ r.assets := List.mem_of_find?_eq_some found
  apply List.mem_flatMap.2
  exact ⟨.crypto b, by simp [listings, registered], member⟩

section Orderly

variable (orderly : r.Orderly t) (found : r.asset? source.currency = some b)

include orderly found

theorem Orderly.id_eq_iff (listed : .crypto source ∈ t.lists (.crypto b.currency))
    {account : Account} (member : account ∈ r.held t) :
    account.id = source.id ↔ account = .crypto source := by
  constructor
  · intro same
    exact List.inj_on_of_nodup_map orderly.distinct member (mem_held found listed) same
  · rintro rfl
    rfl

theorem run_targets_eq_ok (listed : .crypto source ∈ t.lists (.crypto b.currency))
    {targets : List Account} (run : (r.targets source action).run oracle s = (.ok targets, t)) :
    (r.pool source action).run oracle s = (.ok (r.poolOf t.lists source action), t) ∧
      targets = (r.poolOf t.lists source action).filter fun target =>
        action.Admits source target ∧ target ≠ .crypto source := by
  by_cases swaps : action = .swap
  next =>
    subst swaps
    rw [targets_swap, run_map_eq_ok] at run
    obtain ⟨group, shown, rfl⟩ := run
    have drawn := r.draws_allWallets.run_eq_ok shown
    rw [pool_swap, run_map_eq_ok]
    refine ⟨⟨group, shown, ?_⟩, ?_⟩
    · rw [drawn]
      rfl
    · rw [drawn, filter_swap]
      rfl
  next =>
    rw [targets_of_ne swaps, run_map_eq_ok] at run
    obtain ⟨parts, got, rfl⟩ := run
    have drawn := (draws_around found).run_eq_ok got
    have known : ∀ account ∈ t.lists (.crypto b.currency),
        account.id = source.id ↔ account = .crypto source := by
      intro account member
      exact orderly.id_eq_iff found listed (mem_held found member)
    rw [pool_of_ne swaps, run_map_eq_ok, poolOf_of_ne found swaps]
    refine ⟨⟨parts, got, ?_⟩, ?_⟩
    · rw [drawn]
    · rw [drawn, filter_others known orderly.fiat]

end Orderly

theorem Orderly.enabled (orderly : r.Orderly t) {account : CryptoAccount}
    (member : .crypto account ∈ r.walletsOf t.lists) :
    ∃ a ∈ r.enabledAssets, a.currency = account.currency ∧
      .crypto account ∈ t.lists (.crypto a.currency) := by
  rw [walletsOf_eq] at member
  rcases List.mem_append.1 member with member | member
  next =>
    obtain ⟨a, enabled, listed⟩ := List.mem_flatMap.1 member
    have own := orderly.currency a (List.mem_of_mem_filter enabled) _ listed
    exact ⟨a, enabled, (Option.some.inj own).symm, listed⟩
  next => cases orderly.fiat _ member

/-- The accounts that are offered are, in their order, those in question that the table admits,
without the source. They are refused only where the accounts in question cannot be had, which for a
swap are all wallets. -/
theorem targets_match_table (r : Registry) (source : CryptoAccount) (action : Action)
    (oracle : Oracle) (s t : Session) (result : Checked (List Account))
    (run : (r.targets source action).run oracle s = (result, t)) :
    (∀ halt, result = .error halt ↔ (r.pool source action).run oracle s = (.error halt, t)) ∧
    (action = .swap → ∀ halt,
      result = .error halt ↔ r.allWallets.run oracle s = (.error halt, t)) ∧
    ∀ targets, result = .ok targets → r.Orderly t →
      (∃ a ∈ r.assets, .crypto source ∈ t.lists (.crypto a.currency)) →
        ∃ pool, (r.pool source action).run oracle s = (.ok pool, t) ∧
          targets = pool.filter (fun target =>
            action.Admits source target ∧ target ≠ .crypto source) ∧
          (targets.map Account.id).Nodup ∧ source.id ∉ targets.map Account.id ∧
          (action = .swap → ∀ target ∈ targets, ∃ account, target = .crypto account ∧
            (∃ a ∈ r.enabledAssets, a.currency = account.currency ∧
              target ∈ t.lists (.crypto a.currency)) ∧
            account.currency ≠ source.currency ∧
            (source.isCustodial = true → account.isCustodial = true)) := by
  have refused (halt : Halt) :
      result = .error halt ↔ (r.pool source action).run oracle s = (.error halt, t) := by
    rw [← targets_eq_error_iff, run]
    simp
  refine ⟨refused, ?_, ?_⟩
  · rintro rfl halt
    rw [refused halt, pool_swap, run_map_eq_error]
  · rintro targets rfl orderly ⟨a, registered, listed⟩
    have own : a.currency = source.currency :=
      (Option.some.inj (orderly.currency a registered _ listed)).symm
    obtain ⟨b, -, same, checked⟩ := asset_of_registered registered
    rw [← same] at listed
    have found : r.asset? source.currency = some b := asset_eq_ok.1 (own ▸ checked)
    obtain ⟨pooled, chosen⟩ := run_targets_eq_ok orderly found listed run
    have held : targets.Sublist (r.held t) := by
      rw [chosen]
      exact List.filter_sublist.trans ((wanted_sublist found).flatMap _)
    refine ⟨_, pooled, chosen, orderly.distinct.sublist (held.map Account.id), ?_, ?_⟩
    · intro member
      obtain ⟨target, offered, same⟩ := List.mem_map.1 member
      have itself := (orderly.id_eq_iff found listed (held.subset offered)).1 same
      rw [chosen] at offered
      simp [itself] at offered
    · rintro rfl target offered
      rw [chosen] at offered
      obtain ⟨pooled, admitted⟩ := List.mem_filter.1 offered
      obtain ⟨⟨account, rfl, foreign, custody⟩, -⟩ := of_decide_eq_true admitted
      exact ⟨account, rfl, orderly.enabled pooled, foreign, custody⟩

theorem targets_match_table_lumens :
    ∃ t, (several.targets Asset.ownAccount .swap).run (answering (.ok [heldLumens])) .empty =
          (.ok [.crypto heldLumens], t) ∧
      several.Orderly t ∧ .crypto Asset.ownAccount ∈ t.lists (.crypto .btc) ∧
      ∃ pool, (several.pool Asset.ownAccount .swap).run (answering (.ok [heldLumens])) .empty =
          (.ok pool, t) ∧
        [.crypto heldLumens] = pool.filter fun target =>
          Action.swap.Admits Asset.ownAccount target ∧ target ≠ .crypto Asset.ownAccount := by
  obtain ⟨t, run, orderly, listed⟩ :
      ∃ t, (several.targets Asset.ownAccount .swap).run (answering (.ok [heldLumens])) .empty =
          (.ok [.crypto heldLumens], t) ∧
        several.Orderly t ∧ .crypto Asset.ownAccount ∈ t.lists (.crypto .btc) :=
    ⟨_, rfl, ⟨by decide, by decide, by decide⟩, by decide⟩
  obtain ⟨-, -, offered⟩ := targets_match_table several Asset.ownAccount .swap
    (answering (.ok [heldLumens])) .empty t _ run
  obtain ⟨pool, pooled, chosen, -⟩ :=
    offered _ rfl orderly ⟨Asset.foreign, List.mem_cons_self, listed⟩
  exact ⟨t, run, orderly, listed, pool, pooled, chosen⟩

end Registry

end MultiWallet
