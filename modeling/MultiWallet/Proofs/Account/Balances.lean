import MultiWallet.Proofs.Custodian
import MultiWallet.Proofs.Chain.Overflow

set_option autoImplicit false

namespace MultiWallet

open Dialogue

namespace ChainClient

theorem balance_plain (chain : ChainClient) (account : String) :
    (chain.balance account).Plain Reached := by
  cases chain with
  | external name currency =>
    exact .bind (.call _ (by simp [Call.To, Call.party])) fun answer => .ofAnswer answer
  | indexer currency base =>
    refine .bind ((Indexer.find_inquires _ _ _).plain (Call.to_web _ _)) fun listed => ?_
    cases listed with
    | some listed => exact .calculation _
    | none => exact .pure _
  | stellar server network =>
    refine .bind ((server.account?_plain account).toward (by decide)) fun known => ?_
    cases known with
    | some known => exact .bind (.calculation _) fun _ => .pure _
    | none => exact .pure _
  | evm currency url gasLimit => exact Evm.balance_plain (fun _ _ => Call.to_web _ _) _

theorem balance_bounded (chain : ChainClient) (account : String) :
    (chain.balance account).Bounded := by
  cases chain with
  | external name currency =>
    exact (inquires_answer (c := .chainBalance name account) fun reply => reply).stays
  | indexer currency base =>
    refine (Indexer.find_inquires _ _ _).stays.bind fun listed => ?_
    cases listed with
    | some listed => exact bounded_ofChecked (Amount.bounded_ofMinorText _ _)
    | none => exact bounded_ofChecked (Checked.bounded_ok _)
  | stellar server network =>
    refine (server.account?_bounded account).bind fun known => ?_
    cases known with
    | some known =>
      exact (bounded_ofChecked known.bounded_nativeBalance).bind fun _ =>
        bounded_ofChecked (Checked.bounded_ok _)
    | none => exact bounded_ofChecked (Checked.bounded_ok _)
  | evm currency url gasLimit => exact Evm.balance_bounded _ _

end ChainClient

theorem Backend.balance_bounded (backend : Backend) (currency : Currency) :
    (backend.balance currency).Bounded := by
  cases backend with
  | onChain chain address =>
    exact (chain.balance_bounded address).bind fun _ => bounded_ofChecked (Checked.bounded_ok _)
  | trading custodian => exact (custodian.tradingBalance_single currency).bounded
  | addressOnly address => exact bounded_ofChecked (Checked.bounded_ok _)
  | external name =>
    exact (inquires_answer (c := .accountBalance name) fun reply => reply).stays

namespace Account

variable {account : Account} {query : Dialogue Amount} {oracle : Oracle} {s t : Session}

theorem cryptoBalance?_bounded (asked : account.cryptoBalance? = some query) : query.Bounded := by
  cases account with
  | crypto a =>
    cases asked
    exact (a.backend.balance_bounded a.currency).bind fun _ =>
      bounded_ofChecked (Checked.bounded_ok _)
  | interest a =>
    cases asked
    exact (a.custodian.interestBalance_single a.currency).bounded.bind fun _ =>
      bounded_ofChecked (Checked.bounded_ok _)
  | fiat a => cases asked

theorem currency?_of_balance {amount : Amount} (asked : account.cryptoBalance? = some query)
    (reported : query.run oracle s = (.ok amount, t)) :
    account.currency? = some amount.currency := by
  cases account with
  | crypto a =>
    cases asked
    obtain ⟨value, _, -, report⟩ := run_bind_eq_ok.1 reported
    cases report
    rfl
  | interest a =>
    cases asked
    obtain ⟨value, _, -, report⟩ := run_bind_eq_ok.1 reported
    cases report
    rfl
  | fiat a => cases asked

theorem currency?_of_unasked (unasked : account.cryptoBalance? = none) :
    account.currency? = none := by
  cases account with
  | crypto a => cases unasked
  | interest a => cases unasked
  | fiat a => rfl

end Account

end MultiWallet
