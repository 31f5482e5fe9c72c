import MultiWallet.Proofs.Amount
import MultiWallet.Proofs.Selection
import MultiWallet.Proofs.Trade

set_option autoImplicit false

namespace MultiWallet

open Dialogue

inductive Misdirected (source : CryptoAccount) : Target → Failure → Prop where
  | account (account : Account) :
      Misdirected source (.account account)
        (.contractViolation "on-chain transfer target must be an address")
  | blank (address : Address) (blank : Text.trim address.text.toList = []) :
      Misdirected source (.address address) (.contractViolation "target address is empty")
  | foreign (address : Address) (visible : Text.trim address.text.toList ≠ [])
      (other : address.currency ≠ source.currency) :
      Misdirected source (.address address)
        (.contractViolation ("target address is " ++ address.currency.ticker ++
          " but source is " ++ source.currency.ticker))

theorem chainAddress_eq_error_iff {source : CryptoAccount} {target : Target} {cause : Failure} :
    chainAddress source target = .error (.failure cause) ↔ Misdirected source target cause := by
  constructor
  next =>
    intro failed
    cases target with
    | account account =>
      cases failed
      exact .account account
    | address address =>
      by_cases blank : Text.trim address.text.toList = []
      next =>
        simp only [chainAddress, blank, List.isEmpty_nil, if_true] at failed
        cases failed
        exact .blank address blank
      next =>
        by_cases same : address.currency = source.currency
        next => simp [chainAddress, blank, same] at failed
        next =>
          simp only [chainAddress, List.isEmpty_iff, blank, same, ne_eq, not_false_eq_true,
            if_true, if_false] at failed
          cases failed
          exact .foreign address blank same
  next =>
    intro wrong
    cases wrong with
    | account account => rfl
    | blank address blank => simp [chainAddress, blank, fail]
    | foreign address visible other => simp [chainAddress, visible, other, fail]

namespace StellarTransfer

inductive Undeliverable (t : StellarTransfer) : Failure → Prop where
  | misdirected (cause : Failure) (wrong : Misdirected t.source t.target cause) :
      Undeliverable t cause
  | otherLedger (address : Address) (aimed : chainAddress t.source t.target = .ok address)
      (other : address.currency ≠ .xlm) :
      Undeliverable t (.contractViolation ("Stellar engine used for " ++ address.currency.ticker))
  | longMemo (address : Address) (memo : String)
      (aimed : chainAddress t.source t.target = .ok address) (lumens : address.currency = .xlm)
      (noted : address.memo = some memo) (long : 28 < memo.utf8ByteSize) :
      Undeliverable t (.contractViolation "memo exceeds 28 bytes")

theorem destination_eq_error_iff {t : StellarTransfer} {cause : Failure} :
    t.destination = .error (.failure cause) ↔ t.Undeliverable cause := by
  unfold destination
  constructor
  next =>
    intro failed
    cases aimed : chainAddress t.source t.target with
    | error halt =>
      rw [aimed] at failed
      cases failed
      exact .misdirected cause (chainAddress_eq_error_iff.1 aimed)
    | ok address =>
      rw [aimed] at failed
      change (if _ then _ else if _ then _ else _) = _ at failed
      split at failed
      next other =>
        cases failed
        exact .otherLedger address aimed other
      next lumens =>
        split at failed
        next long =>
          cases noted : address.memo with
          | none => simp [noted, memoLimit] at long
          | some memo =>
            cases failed
            exact .longMemo address memo aimed (not_not.1 lumens) noted
              (by simpa [noted, memoLimit] using long)
        next => cases failed
  next =>
    intro wrong
    cases wrong with
    | misdirected cause wrong => rw [chainAddress_eq_error_iff.2 wrong]; rfl
    | otherLedger address aimed other =>
      rw [aimed]
      exact if_pos other
    | longMemo address memo aimed lumens noted long =>
      rw [aimed]
      change (if _ then _ else if _ then _ else _) = _
      rw [if_neg (by simp [lumens]), if_pos (by simp [noted, memoLimit, long])]
      rfl

end StellarTransfer

namespace Trade

inductive Tradable (source : CryptoAccount) : OrderKind → Account → Prop where
  | sale (account : FiatAccount) : Tradable source .sell (.fiat account)
  | swap (account : CryptoAccount) (other : account.currency ≠ source.currency) :
      Tradable source .swap (.crypto account)

def misplaced (t : Trade) : Failure :=
  .contractViolation
    (t.kind.title ++ " order cannot target " ++ t.target.kind ++ " account " ++ t.target.label)

theorem proceeds_cases (t : Trade) :
    Tradable t.source t.kind t.target ∧ (∃ proceeds, t.proceeds = .ok proceeds) ∨
      ¬ Tradable t.source t.kind t.target ∧ t.proceeds = fail t.misplaced := by
  unfold proceeds
  split
  next account kind target =>
    rw [kind, target]
    exact .inl ⟨.sale account, _, rfl⟩
  next account kind target =>
    rw [kind, target]
    by_cases same : account.currency = t.source.currency
    next =>
      rw [if_pos same]
      refine .inr ⟨?_, by simp [misplaced, kind, target]⟩
      intro tradable
      cases tradable with
      | swap account other => exact other same
    next =>
      rw [if_neg same]
      exact .inl ⟨.swap account same, _, rfl⟩
  next noSale noSwap =>
    refine .inr ⟨?_, rfl⟩
    generalize kind : t.kind = k, target : t.target = a
    intro tradable
    cases tradable with
    | sale account => exact noSale account kind target
    | swap account other => exact noSwap account kind target

end Trade

namespace Engine

/-- What is wrong with the inputs of an engine. It is seen without asking anybody, except that an
engine from outside checks its inputs itself. -/
inductive Breach (oracle : Oracle) (u : Session) : Engine → List Call → Failure → Prop where
  | onChain (t : OnChainTransfer) (cause : Failure)
      (wrong : Misdirected t.source t.target cause) : Breach oracle u (.onChain t) [] cause
  | stellar (t : StellarTransfer) (cause : Failure) (wrong : t.Undeliverable cause) :
      Breach oracle u (.stellar t) [] cause
  | owned (w : Withdrawal) (own : w.source.isCustodial = false) :
      Breach oracle u (.withdrawal w) []
        (.contractViolation "custodial withdrawal from a non-custodial account")
  | withdrawal (w : Withdrawal) (cause : Failure) (custodial : w.source.isCustodial = true)
      (wrong : Misdirected w.source w.target cause) : Breach oracle u (.withdrawal w) [] cause
  | trade (t : Trade) (untradable : ¬ Trade.Tradable t.source t.kind t.target) :
      Breach oracle u (.trade t) [] t.misplaced
  | unfunded (t : Trade) (tradable : Trade.Tradable t.source t.kind t.target)
      (own : t.source.isCustodial = false) :
      Breach oracle u (.trade t) []
        (.contractViolation "non-custodial order source needs a deposit transfer")
  | fundedTrade (t : Trade) (deposit : Engine)
      (untradable : ¬ Trade.Tradable t.source t.kind t.target) :
      Breach oracle u (.fundedTrade t deposit) [] t.misplaced
  | deposit (t : Trade) (deposit : Engine) (calls : List Call) (cause : Failure)
      (tradable : Trade.Tradable t.source t.kind t.target)
      (wrong : Breach oracle u deposit calls cause) :
      Breach oracle u (.fundedTrade t deposit) calls cause
  | external (name : String) (level : FeeLevel) (cause : Failure)
      (refused : oracle u.calls (.engineValidate name) = .error cause) :
      Breach oracle u (.external name level) [.engineValidate name] cause

variable {oracle : Oracle} {u v : Session} {engine : Engine} {calls : List Call} {cause : Failure}

theorem run_validate_external (name : String) (level : FeeLevel) :
    (external name level).validate.run oracle u =
      ((oracle u.calls (.engineValidate name)).mapError Halt.failure,
        u.after [.engineValidate name]) := by
  change (ofAnswer _).run oracle (u.after _) = _
  cases oracle u.calls (.engineValidate name) <;> rfl

theorem Breach.run (breach : Breach oracle u engine calls cause) :
    engine.validate.run oracle u = (.error (.failure cause), u.after calls) := by
  induction breach with
  | onChain t cause wrong =>
    rw [validate, chainAddress_eq_error_iff.2 wrong, Session.after_nil]
    rfl
  | stellar t cause wrong =>
    rw [validate, StellarTransfer.destination_eq_error_iff.2 wrong, Session.after_nil]
    rfl
  | owned w own => simp [validate, Withdrawal.validate, own, fail]
  | withdrawal w cause custodial wrong =>
    simp [validate, Withdrawal.validate, custodial, chainAddress_eq_error_iff.2 wrong]
  | trade t untradable =>
    obtain ⟨tradable, -⟩ | ⟨-, refused⟩ := t.proceeds_cases
    next => exact absurd tradable untradable
    next => simp [validate, refused, run_bind, fail]
  | unfunded t tradable own =>
    obtain ⟨-, proceeds, known⟩ | ⟨untradable, -⟩ := t.proceeds_cases
    next => simp [validate, known, own, run_bind]
    next => exact absurd tradable untradable
  | fundedTrade t deposit untradable =>
    obtain ⟨tradable, -⟩ | ⟨-, refused⟩ := t.proceeds_cases
    next => exact absurd tradable untradable
    next => simp [validate, refused, run_bind, fail]
  | deposit t deposit calls cause tradable wrong ih =>
    obtain ⟨-, proceeds, known⟩ | ⟨untradable, -⟩ := t.proceeds_cases
    next => rw [validate, known, liftM_ok_bind, ih]
    next => exact absurd tradable untradable
  | external name level cause refused => rw [run_validate_external, refused]; rfl

theorem breach_of_run (refused : engine.validate.run oracle u = (.error (.failure cause), v)) :
    ∃ calls, Breach oracle u engine calls cause ∧ v = u.after calls := by
  induction engine with
  | onChain t =>
    obtain ⟨halt, known, ended, rfl⟩ | ⟨address, known, ended⟩ := run_liftM_bind_cases refused
    next =>
      cases ended
      exact ⟨[], .onChain t cause (chainAddress_eq_error_iff.1 known), by simp⟩
    next => cases ended
  | stellar t =>
    obtain ⟨halt, known, ended, rfl⟩ | ⟨address, known, ended⟩ := run_liftM_bind_cases refused
    next =>
      cases ended
      exact ⟨[], .stellar t cause (StellarTransfer.destination_eq_error_iff.1 known), by simp⟩
    next => cases ended
  | withdrawal w =>
    cases custody : w.source.isCustodial with
    | false =>
      simp only [validate, Withdrawal.validate, custody] at refused
      cases refused
      exact ⟨[], .owned w custody, by simp⟩
    | true =>
      simp only [validate, Withdrawal.validate, custody] at refused
      cases known : chainAddress w.source w.target with
      | ok address =>
        rw [known] at refused
        cases refused
      | error halt =>
        rw [known] at refused
        cases refused
        exact ⟨[], .withdrawal w cause custody (chainAddress_eq_error_iff.1 known), by simp⟩
  | trade t =>
    obtain ⟨tradable, proceeds, known⟩ | ⟨untradable, known⟩ := t.proceeds_cases
    next =>
      rw [validate, known, liftM_ok_bind] at refused
      split at refused
      next => cases refused
      next own =>
        cases refused
        exact ⟨[], .unfunded t tradable (Bool.eq_false_of_not_eq_true own), by simp⟩
    next =>
      rw [validate, known] at refused
      cases refused
      exact ⟨[], .trade t untradable, by simp⟩
  | fundedTrade t deposit ih =>
    obtain ⟨tradable, proceeds, known⟩ | ⟨untradable, known⟩ := t.proceeds_cases
    next =>
      rw [validate, known, liftM_ok_bind] at refused
      obtain ⟨calls, wrong, rfl⟩ := ih refused
      exact ⟨calls, .deposit t deposit calls cause tradable wrong, rfl⟩
    next =>
      rw [validate, known] at refused
      cases refused
      exact ⟨[], .fundedTrade t deposit untradable, by simp⟩
  | external name level =>
    rw [run_validate_external] at refused
    cases answer : oracle u.calls (.engineValidate name) with
    | ok _ =>
      rw [answer] at refused
      cases refused
    | error cause =>
      rw [answer] at refused
      cases refused
      exact ⟨_, .external name level cause answer, rfl⟩

def isForeign : Engine → Bool
  | onChain _ | stellar _ | withdrawal _ | trade _ => false
  | fundedTrade _ deposit => deposit.isForeign
  | external _ _ => true

theorem Breach.silent (breach : Breach oracle u engine calls cause)
    (native : engine.isForeign = false) : calls = [] := by
  induction breach with
  | deposit t deposit calls cause tradable wrong ih => exact ih native
  | external => cases native
  | _ => rfl

theorem Breach.validates (breach : Breach oracle u engine calls cause) :
    ∀ c ∈ calls, ∃ name, c = .engineValidate name := by
  induction breach with
  | deposit t deposit calls cause tradable wrong ih => exact ih
  | external name level cause refused => simp
  | _ => simp

end Engine

theorem Asset.engine_native {a : Asset} {source : CryptoAccount} {target : Target} {oracle : Oracle}
    {s t : Session} {engine : Engine} (native : a.kind ≠ .external)
    (made : (a.engine source target).run oracle s = (.ok engine, t)) :
    engine.isForeign = false := by
  rcases kind : a.kind with ⟨chain, preference⟩ | ⟨chain, preference⟩ | _ | _ <;>
    simp only [Asset.engine, kind] at made
  next => cases made; rfl
  next => cases made; rfl
  next => cases made
  next => exact absurd kind native

namespace Processor

variable {asset : Asset} {custodian : Custodian} {source : CryptoAccount} {target : Target}
  {action : Action} {asked oracle : Oracle} {s t u v : Session} {p : Processor} {amount : Amount}
  {halt : Halt}

theorem Selected.native {calls : List Call} {engine : Engine} (native : asset.kind ≠ .external)
    (selected : Selected asset custodian source oracle s action target calls (.ok engine)) :
    engine.isForeign = false := by
  generalize ended : (.ok engine : Checked Engine) = result at selected
  cases selected with
  | withdrawal target address calls custodial addressed => cases ended; rfl
  | chain target address calls result own addressed made =>
    subst ended
    exact asset.engine_native native made
  | unaddressed => cases ended
  | trade => cases ended; rfl
  | fundedTrade action target kind account address deposit own traded found made =>
    cases deposit with
    | error halt => cases ended
    | ok deposit =>
      cases ended
      have deposits : deposit.isForeign = false := asset.engine_native native made
      exact deposits
  | undeposited => cases ended
  | unsupported => cases ended

theorem native_of_created (native : asset.kind ≠ .external)
    (created : (create asset custodian source target action).run asked s = (.ok p, t)) :
    p.engine.isForeign = false := by
  obtain ⟨result, t', run, creation⟩ := run_create asset custodian source target action asked s
  cases run.symm.trans created
  cases creation with
  | created calls engine permitted selected => exact selected.native native

section Stopping

variable (level : FeeLevel)

theorem run_fee_foreign (other : amount.currency ≠ p.source.currency) :
    (p.fee amount level).run oracle u =
      (.error (.failure (.currencyMismatch p.source.currency.ticker amount.currency.ticker)),
        u) := by
  rw [Processor.fee, requireCurrency, if_neg other]
  rfl

theorem run_execute_foreign (other : amount.currency ≠ p.source.currency) :
    (p.execute amount level).run oracle u =
      (.error (.failure (.currencyMismatch p.source.currency.ticker amount.currency.ticker)),
        u) := by
  rw [execute, requireCurrency, if_neg other]
  rfl

theorem run_execute_nonpositive (same : amount.currency = p.source.currency)
    (nothing : amount.isPositive = false) :
    (p.execute amount level).run oracle u =
      (.error (.failure
        (.invalidAmount ("transfer amount must be positive, got " ++ amount.toText))), u) := by
  rw [execute, requireCurrency_eq_ok.2 same, liftM_ok_bind, requirePositive, nothing]
  rfl

variable (refused : p.engine.validate.run oracle u = (.error halt, v))
include refused

theorem run_maximum_refused : (p.maximum level).run oracle u = (.error halt, v) := by
  rw [maximum, run_bind_error refused]

theorem run_fee_refused (same : amount.currency = p.source.currency) :
    (p.fee amount level).run oracle u = (.error halt, v) := by
  rw [Processor.fee, requireCurrency_eq_ok.2 same, liftM_ok_bind, run_bind_error refused]

theorem run_execute_refused (same : amount.currency = p.source.currency)
    (positive : amount.isPositive = true) :
    (p.execute amount level).run oracle u = (.error halt, v) := by
  rw [execute, requireCurrency_eq_ok.2 same, liftM_ok_bind, requirePositive_eq_ok.2 positive,
    liftM_ok_bind, run_bind_error refused]

end Stopping

/-- A processor that was asked with an amount of another currency, or to move an amount that is not
positive, says so and has asked nobody. Neither has it where something is wrong with the inputs of
its engine, which is what it then says: a fee, an amount or a transfer are only ever worked on with
inputs that are as they should be. An engine from outside is asked to check its inputs itself. -/
theorem bad_inputs_untouched (asset : Asset) (custodian : Custodian) (source : CryptoAccount)
    (target : Target) (action : Action) (asked : Oracle) (s t : Session) (p : Processor)
    (created : (create asset custodian source target action).run asked s = (.ok p, t))
    (amount : Amount) (level : FeeLevel) (oracle : Oracle) (u : Session) :
    (amount.currency ≠ source.currency →
      (p.fee amount level).run oracle u =
          (.error (.failure (.currencyMismatch source.currency.ticker amount.currency.ticker)),
            u) ∧
        (p.execute amount level).run oracle u =
          (.error (.failure (.currencyMismatch source.currency.ticker amount.currency.ticker)),
            u)) ∧
    (amount.currency = source.currency → amount.value.toRat ≤ 0 →
      (p.execute amount level).run oracle u =
        (.error (.failure
          (.invalidAmount ("transfer amount must be positive, got " ++ amount.toText))), u)) ∧
    (∀ cause v, p.engine.validate.run oracle u = (.error (.failure cause), v) ↔
      ∃ calls, p.engine.Breach oracle u calls cause ∧ v = u.after calls) ∧
    ∀ calls cause, p.engine.Breach oracle u calls cause →
      (∀ c ∈ calls, ∃ name, c = .engineValidate name) ∧
      (asset.kind ≠ .external → calls = []) ∧
      (p.maximum level).run oracle u = (.error (.failure cause), u.after calls) ∧
      (amount.currency = source.currency →
        (p.fee amount level).run oracle u = (.error (.failure cause), u.after calls) ∧
        (0 < amount.value.toRat →
          (p.execute amount level).run oracle u = (.error (.failure cause), u.after calls))) := by
  have origin : p.source = source := by
    obtain ⟨-, engine, w, -, rfl, -⟩ := run_create_eq_ok.1 created
    rfl
  have positive : amount.isPositive = true ↔ 0 < amount.value.toRat :=
    Decimal.isPositive_iff amount.value
  rw [← origin]
  refine ⟨fun other => ⟨run_fee_foreign level other, run_execute_foreign level other⟩,
    fun same nothing => ?_, fun cause v => ⟨Engine.breach_of_run, ?_⟩, fun calls cause breach => ?_⟩
  next =>
    apply run_execute_nonpositive level same
    rw [← Bool.not_eq_true, positive]
    exact not_lt.2 nothing
  next =>
    rintro ⟨calls, breach, rfl⟩
    exact breach.run
  next =>
    have refused := breach.run
    refine ⟨breach.validates, fun native => breach.silent (native_of_created native created),
      run_maximum_refused level refused, fun same => ⟨run_fee_refused level refused same, ?_⟩⟩
    intro moved
    exact run_execute_refused level refused same (positive.2 moved)

theorem bad_inputs_untouched_blank : ∃ p t,
    (create bitcoins .external (bitcoinAccount .nonCustodial) (.address (.of .btc " ")) .send).run
        (accepting (.ok "order")) .empty = (.ok p, t) ∧
      p.engine.Breach (accepting (.ok "order")) t []
        (.contractViolation "target address is empty") ∧
      (p.maximum .regular).run (accepting (.ok "order")) t =
        (.error (.failure (.contractViolation "target address is empty")), t) ∧
      (p.fee oneBitcoin .regular).run (accepting (.ok "order")) t =
        (.error (.failure (.contractViolation "target address is empty")), t) := by
  refine ⟨_, _, rfl, ?_, ?_⟩
  next => exact .onChain _ _ (.blank _ (by decide))
  next =>
    obtain ⟨-, -, -, breached⟩ := bad_inputs_untouched bitcoins .external
      (bitcoinAccount .nonCustodial) (.address (.of .btc " ")) .send (accepting (.ok "order"))
      .empty _ _ rfl oneBitcoin .regular (accepting (.ok "order")) _
    obtain ⟨-, -, maximum, same⟩ := breached [] _ (.onChain _ _ (.blank _ (by decide)))
    exact ⟨maximum, (same rfl).1⟩

end Processor

end MultiWallet
