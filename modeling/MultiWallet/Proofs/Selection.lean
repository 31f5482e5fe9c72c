import MultiWallet.Proofs.Addresses
import MultiWallet.Proofs.Engine

set_option autoImplicit false

namespace MultiWallet

open Dialogue

namespace Asset

def engineCall? (a : Asset) : Option Call :=
  match a.kind with
  | .onChain _ _ | .stellar _ _ | .stacks => none
  | .external => some (.assetEngine a.currency)

theorem engine_makes (a : Asset) (source : CryptoAccount) (target : Target) :
    (a.engine source target).Makes a.engineCall?.toList := by
  rcases kind : a.kind with ⟨chain, preference⟩ | ⟨chain, preference⟩ | _ | _ <;>
    simp only [engine, engineCall?, kind]
  next => exact makes_pure _
  next => exact makes_pure _
  next => exact makes_fail _
  next =>
    have answered : (ask (.assetEngine a.currency) >>= ofAnswer : Dialogue String).Makes
        [.assetEngine a.currency] :=
      (inquires_answer (c := .assetEngine a.currency) fun reply => reply).makes
    rw [← bind_assoc]
    exact answered.bind fun name => makes_pure _

theorem engine_uncalled {a : Asset} {source : CryptoAccount} {target : Target} {oracle : Oracle}
    {s t : Session} {cause : Failure} (uncalled : a.engineCall? = none)
    (run : (a.engine source target).run oracle s = (.error (.failure cause), t)) :
    ∃ what, cause = .unsupportedTransaction what := by
  rcases kind : a.kind with ⟨chain, preference⟩ | ⟨chain, preference⟩ | _ | _ <;>
    simp only [engine, engineCall?, kind] at run uncalled
  next => cases run
  next => cases run
  next =>
    cases run
    exact ⟨_, rfl⟩
  next => cases uncalled

end Asset

theorem CryptoAccount.receiveAddress_uncalled {a : CryptoAccount} {oracle : Oracle} {s t : Session}
    {cause : Failure} (uncalled : a.addressCall? = none) :
    a.receiveAddress.run oracle s ≠ (.error (.failure cause), t) := by
  unfold addressCall? at uncalled
  intro run
  rw [receiveAddress, bind_pure_comp, run_map_eq_error] at run
  cases backend : a.backend with
  | onChain chain address =>
    rw [backend] at run
    cases run
  | addressOnly address =>
    rw [backend] at run
    cases run
  | trading custodian | external name => simp [backend] at uncalled

namespace Processor

inductive Addressed (oracle : Oracle) (s : Session) :
    Target → List Call → Checked Address → Prop where
  | given (address : Address) : Addressed oracle s (.address address) [] (.ok address)
  | asked (account : CryptoAccount) (result : Checked Address)
      (run : account.receiveAddress.run oracle s =
        (result, s.after account.addressCall?.toList)) :
      Addressed oracle s (.account (.crypto account)) account.addressCall?.toList result

inductive Traded : Action → Target → OrderKind → Account → Prop where
  | sale (account : FiatAccount) : Traded .sell (.account (.fiat account)) .sell (.fiat account)
  | swap (account : CryptoAccount) :
      Traded .swap (.account (.crypto account)) .swap (.crypto account)

inductive Supported : Action → Target → Prop where
  | toAddress (address : Address) : Supported .send (.address address)
  | toAccount (account : CryptoAccount) : Supported .send (.account (.crypto account))
  | trade (action : Action) (target : Target) (kind : OrderKind) (account : Account)
      (traded : Traded action target kind account) : Supported action target

section Table

variable (asset : Asset) (custodian : Custodian) (source : CryptoAccount) (oracle : Oracle)
  (s : Session)

inductive Selected : Action → Target → List Call → Checked Engine → Prop where
  | withdrawal (target : Target) (address : Address) (calls : List Call)
      (custodial : source.isCustodial = true)
      (addressed : Addressed oracle s target calls (.ok address)) :
      Selected .send target calls
        (.ok (.withdrawal { source, target := .address address, custodian }))
  | chain (target : Target) (address : Address) (calls : List Call) (engine : Checked Engine)
      (own : source.isCustodial = false)
      (addressed : Addressed oracle s target calls (.ok address))
      (made : (asset.engine source (.address address)).run oracle (s.after calls) =
        (engine, s.after (calls ++ asset.engineCall?.toList))) :
      Selected .send target (calls ++ asset.engineCall?.toList) engine
  | unaddressed (target : Target) (calls : List Call) (cause : Failure)
      (addressed : Addressed oracle s target calls (.error (.failure cause))) :
      Selected .send target calls (.error (.failure cause))
  | trade (action : Action) (target : Target) (kind : OrderKind) (account : Account)
      (custodial : source.isCustodial = true) (traded : Traded action target kind account) :
      Selected action target [] (.ok (.trade { source, target := account, kind, custodian }))
  | fundedTrade (action : Action) (target : Target) (kind : OrderKind) (account : Account)
      (address : String) (deposit : Checked Engine) (own : source.isCustodial = false)
      (traded : Traded action target kind account)
      (found : (custodian.depositAddress source.currency).run oracle s =
        (.ok address, s.after [custodian.addressCall source.currency]))
      (made : (asset.engine source (.address (.of source.currency address))).run oracle
          (s.after [custodian.addressCall source.currency]) =
        (deposit, s.after (custodian.addressCall source.currency :: asset.engineCall?.toList))) :
      Selected action target (custodian.addressCall source.currency :: asset.engineCall?.toList)
        (.fundedTrade { source, target := account, kind, custodian } <$> deposit)
  | undeposited (action : Action) (target : Target) (kind : OrderKind) (account : Account)
      (cause : Failure) (own : source.isCustodial = false)
      (traded : Traded action target kind account)
      (failed : (custodian.depositAddress source.currency).run oracle s =
        (.error (.failure cause), s.after [custodian.addressCall source.currency])) :
      Selected action target [custodian.addressCall source.currency] (.error (.failure cause))
  | unsupported (action : Action) (target : Target) (without : ¬ Supported action target) :
      Selected action target [] (.error (.failure (unsupported action target)))

def Chooses (d : Dialogue Engine) (action : Action) (target : Target) : Prop :=
  ∃ engine calls, d.run oracle s = (engine, s.after calls) ∧
    Selected asset custodian source oracle s action target calls engine ∧ engine.Bounded

end Table

section Selecting

variable {asset : Asset} {custodian : Custodian} {source : CryptoAccount} {target : Target}
  {action : Action} {oracle : Oracle} {s : Session}

theorem chooses_unsupported {d : Dialogue Engine}
    (refused : d.run oracle s = (.error (.failure (unsupported action target)), s))
    (without : ¬ Supported action target) :
    Chooses asset custodian source oracle s d action target := by
  refine ⟨_, [], ?_, .unsupported action target without, Checked.bounded_fail _⟩
  rw [refused, Session.after_nil]

theorem sendEngine_addressed {calls : List Call} {found : Checked Address}
    (addressed : Addressed oracle s target calls found) (bounded : found.Bounded)
    (run : (sendAddress target).run oracle s = (found, s.after calls)) :
    Chooses asset custodian source oracle s (sendEngine asset custodian source target) .send
      target := by
  unfold sendEngine
  rcases found with (cause | _) | address
  next =>
    exact ⟨_, calls, run_bind_error run _, .unaddressed target calls cause addressed,
      Checked.bounded_fail cause⟩
  next => exact absurd rfl bounded
  next =>
    cases custody : source.isCustodial with
    | true =>
      exact ⟨_, calls, run_bind_ok run _, .withdrawal target address calls custody addressed,
        Checked.bounded_ok _⟩
    | false =>
      obtain ⟨engine, bounded, made⟩ :=
        asset.engine_makes source (.address address) oracle (s.after calls)
      rw [Session.after_after] at made
      refine ⟨engine, _, ?_, .chain target address calls engine custody addressed made, bounded⟩
      rw [run_bind_ok run]
      exact made

theorem sendEngine_chooses (asset : Asset) (custodian : Custodian) (source : CryptoAccount)
    (target : Target) (oracle : Oracle) (s : Session) :
    Chooses asset custodian source oracle s (sendEngine asset custodian source target) .send
      target := by
  have without (account : Account) (other : ∀ a, account ≠ .crypto a) :
      ¬ Supported .send (.account account) := by
    intro supported
    cases supported with
    | toAccount a => exact other a rfl
    | trade _ _ _ _ traded => cases traded
  rcases target with (account | account | account) | address
  next =>
    obtain ⟨found, bounded, run⟩ := account.receiveAddress_makes oracle s
    exact sendEngine_addressed (.asked account found run) bounded run
  next => exact chooses_unsupported rfl (without _ (by simp))
  next => exact chooses_unsupported rfl (without _ (by simp))
  next =>
    apply sendEngine_addressed (.given address) (Checked.bounded_ok address)
    simp [sendAddress]

theorem tradeTarget_cases (action : Action) (target : Target) :
    (∃ kind account, Traded action target kind account ∧
      tradeTarget action target = .ok (kind, account)) ∨
    (∀ kind account, ¬ Traded action target kind account) ∧
      tradeTarget action target = fail (unsupported action target) := by
  unfold tradeTarget
  split
  next account => exact .inl ⟨_, _, .sale account, rfl⟩
  next account => exact .inl ⟨_, _, .swap account, rfl⟩
  next noSale noSwap =>
    refine .inr ⟨fun kind account traded => ?_, rfl⟩
    cases traded with
    | sale account => exact noSale account rfl rfl
    | swap account => exact noSwap account rfl rfl

theorem tradeEngine_chooses (asset : Asset) (custodian : Custodian) (source : CryptoAccount)
    (target : Target) (oracle : Oracle) (s : Session) (trades : action ≠ .send) :
    Chooses asset custodian source oracle s (tradeEngine asset custodian source action target)
      action target := by
  unfold tradeEngine
  obtain ⟨kind, account, traded, known⟩ | ⟨never, refused⟩ := tradeTarget_cases action target
  next =>
    rw [known, liftM_ok_bind]
    cases custody : source.isCustodial with
    | true =>
      refine ⟨_, [], ?_, .trade action target kind account custody traded, Checked.bounded_ok _⟩
      rw [Session.after_nil]
      rfl
    | false =>
      simp only [Bool.false_eq_true, if_false]
      obtain ⟨(cause | _) | address, bounded, found⟩ :=
        custodian.depositAddress_makes source.currency oracle s
      next =>
        exact ⟨_, _, run_bind_error found _,
          .undeposited action target kind account cause custody traded found,
          Checked.bounded_fail cause⟩
      next => exact absurd rfl bounded
      next =>
        obtain ⟨deposit, bounded, made⟩ := asset.engine_makes source
          (.address (.of source.currency address)) oracle
          (s.after [custodian.addressCall source.currency])
        rw [Session.after_after, List.singleton_append] at made
        refine ⟨_, _, ?_, .fundedTrade action target kind account address deposit custody traded
          found made, ?_⟩
        next =>
          rw [run_bind_ok found, run_bind, made]
          cases deposit <;> rfl
        next => rcases deposit with (cause | _) | deposit <;> simp_all [Checked.Bounded]
  next =>
    rw [refused]
    apply chooses_unsupported rfl
    intro supported
    cases supported with
    | toAddress | toAccount => exact trades rfl
    | trade _ _ kind account traded => exact never kind account traded

theorem chooseEngine_chooses (asset : Asset) (custodian : Custodian) (source : CryptoAccount)
    (target : Target) (action : Action) (oracle : Oracle) (s : Session) :
    Chooses asset custodian source oracle s (chooseEngine asset custodian source target action)
      action target := by
  cases action with
  | send => exact sendEngine_chooses asset custodian source target oracle s
  | sell => exact tradeEngine_chooses asset custodian source target oracle s (by simp)
  | swap => exact tradeEngine_chooses asset custodian source target oracle s (by simp)
  | viewActivity | receive | summary | interestDeposit =>
    apply chooses_unsupported rfl
    intro supported
    cases supported with
    | trade _ _ _ _ traded => cases traded

theorem Selected.uncalled {calls : List Call} {cause : Failure}
    (selected : Selected asset custodian source oracle s action target calls
      (.error (.failure cause))) (silent : calls = []) :
    ∃ what, cause = .unsupportedTransaction what := by
  generalize ended : (.error (.failure cause) : Checked Engine) = engine at selected
  cases selected with
  | withdrawal target address calls custodial addressed => cases ended
  | chain target address calls engine own addressed made =>
    obtain ⟨-, uncalled⟩ := List.append_eq_nil_iff.1 silent
    subst ended
    exact Asset.engine_uncalled (Option.toList_eq_nil_iff.1 uncalled) made
  | unaddressed target calls cause addressed =>
    cases ended
    cases addressed with
    | asked account _ run =>
      exact absurd run (account.receiveAddress_uncalled (Option.toList_eq_nil_iff.1 silent))
  | trade action target kind account custodial traded => cases ended
  | fundedTrade | undeposited => cases silent
  | unsupported action target without =>
    cases ended
    exact ⟨_, rfl⟩

end Selecting

section Creating

variable (asset : Asset) (custodian : Custodian) (source : CryptoAccount) (target : Target)
  (action : Action) (oracle : Oracle) (s : Session)

/-- What comes of an attempt to create a processor. -/
inductive Creation : Checked Processor → Session → Prop where
  | refused (forbidden : source.permits action = false) :
      Creation (.error (.failure (.actionNotPermitted action source.currency))) s
  | failed (calls : List Call) (cause : Failure) (permitted : source.permits action = true)
      (selected : Selected asset custodian source oracle s action target calls
        (.error (.failure cause))) :
      Creation (.error (.failure cause)) (s.after calls)
  | created (calls : List Call) (engine : Engine) (permitted : source.permits action = true)
      (selected : Selected asset custodian source oracle s action target calls (.ok engine)) :
      Creation (.ok { id := s.nextId, source, target, action, engine })
        { s.after calls with counted := s.counted ++ [.created action], nextId := s.nextId + 1 }

theorem run_create : ∃ result t, (create asset custodian source target action).run oracle s =
    (result, t) ∧ Creation asset custodian source target action oracle s result t := by
  unfold create
  by_cases permitted : source.permits action = true
  next =>
    rw [if_pos permitted]
    obtain ⟨(cause | _) | engine, calls, chosen, selected, bounded⟩ :=
      chooseEngine_chooses asset custodian source target action oracle s
    next =>
      exact ⟨_, _, run_bind_error chosen _, .failed calls cause permitted selected⟩
    next => exact absurd rfl bounded
    next =>
      refine ⟨_, _, ?_, .created calls engine permitted selected⟩
      rw [run_bind_ok chosen]
      rfl
  next =>
    rw [if_neg permitted]
    exact ⟨_, _, rfl, .refused (Bool.eq_false_of_not_eq_true permitted)⟩

/-- What the source does not permit is refused before anybody is asked, and only then is it refused
so without a call. Otherwise the source, the action and the target select the engine, or it is the
failure of whom had to be asked for it that is passed on. A processor is counted under its action
once it has been made, and nothing else is counted. -/
theorem create_selects : ∃ result t,
    (create asset custodian source target action).run oracle s = (result, t) ∧
      Creation asset custodian source target action oracle s result t ∧
      (source.permits action = false ↔
        result = .error (.failure (.actionNotPermitted action source.currency)) ∧
          t.calls = s.calls) ∧
      (∀ p, result = .ok p → t.counted = s.counted ++ [.created action]) ∧
      ∀ halt, result = .error halt → t.counted = s.counted := by
  obtain ⟨result, t, run, creation⟩ := run_create asset custodian source target action oracle s
  refine ⟨result, t, run, creation, ?_, ?_, ?_⟩
  next =>
    constructor
    next =>
      intro forbidden
      cases creation with
      | refused _ => exact ⟨rfl, rfl⟩
      | failed calls cause permitted selected => cases forbidden.symm.trans permitted
      | created calls engine permitted selected => cases forbidden.symm.trans permitted
    next =>
      rintro ⟨refused, silent⟩
      cases creation with
      | refused forbidden => exact forbidden
      | failed calls cause permitted selected =>
        cases refused
        obtain ⟨what, unsupported⟩ := selected.uncalled (List.append_right_eq_self.1 silent)
        cases unsupported
      | created => cases refused
  next =>
    rintro p rfl
    cases creation with
    | created => rfl
  next =>
    rintro halt rfl
    cases creation with
    | refused => rfl
    | failed => rfl

end Creating

end Processor

end MultiWallet
