import MultiWallet.Engine.Payment
import MultiWallet.Proofs.Inquiry

set_option autoImplicit false

namespace MultiWallet

open Dialogue

inductive Party where
  | web
  | wallet
  | custodian
  | fees
  | signer
  | reporter
  | account
  | network
  | asset
  | engine
deriving DecidableEq

def Call.party : Call → Party
  | .http _ => .web
  | .walletEntries _ => .wallet
  | .custodianReachable | .fiatCurrencies | .tradingBalance _ | .interestBalance _
  | .fiatBalance _ | .depositAddress _ | .withdrawalFee _ | .withdraw _ _ _ | .placeOrder _ =>
    .custodian
  | .feeSchedule _ => .fees
  | .sign _ => .signer
  | .report _ _ => .reporter
  | .accountAddress _ | .accountBalance _ | .accountActivity _ => .account
  | .chainHealth _ | .chainExists _ _ | .chainBalance _ _ | .chainHistory _ _ | .chainBuild _ _
  | .chainSubmit _ _ | .chainMaximum _ _ _ | .stellarRoot _ | .stellarAccount _ _
  | .stellarOperations _ _ | .stellarSubmit _ _ => .network
  | .assetInit _ | .assetNonCustodial _ _ | .assetCustodial _ _ | .assetInterest _ _
  | .assetEngine _ => .asset
  | .engineValidate _ | .engineFee _ _ _ | .engineMaximum _ _ | .engineExecute _ _ _ => .engine

def Call.To (parties : List Party) (c : Call) : Prop := c.party ∈ parties

theorem Call.To.widen {parties others : List Party} {c : Call} (inParties : c.To parties)
    (inside : parties ⊆ others) : c.To others := inside inParties

theorem Dialogue.Plain.widen {α : Type} {parties others : List Party} {d : Dialogue α}
    (plain : d.Plain (Call.To parties)) (inside : parties ⊆ others) : d.Plain (Call.To others) :=
  plain.mono fun _ inParties => inParties.widen inside

theorem Call.to_web (request : Http.Request) (others : List Party) :
    Call.To (.web :: others) (.http request) := List.mem_cons_self

/-- The call changes nothing where it is answered. What is posted counts as a change. -/
def Call.reads : Call → Bool
  | .http request => request.method == .get
  | .sign _ | .withdraw _ _ _ | .placeOrder _ | .chainSubmit _ _ | .stellarSubmit _ _
  | .engineExecute _ _ _ => false
  | .walletEntries _ | .custodianReachable | .fiatCurrencies | .tradingBalance _
  | .interestBalance _ | .fiatBalance _ | .depositAddress _ | .withdrawalFee _ | .feeSchedule _
  | .report _ _ | .accountAddress _ | .accountBalance _ | .accountActivity _ | .chainHealth _
  | .chainExists _ _ | .chainBalance _ _ | .chainHistory _ _ | .chainBuild _ _
  | .chainMaximum _ _ _ | .stellarRoot _ | .stellarAccount _ _ | .stellarOperations _ _
  | .assetInit _ | .assetNonCustodial _ _ | .assetCustodial _ _ | .assetInterest _ _
  | .assetEngine _ | .engineValidate _ | .engineFee _ _ _ | .engineMaximum _ _ => true

abbrev Call.Reads (c : Call) : Prop := c.reads = true

def Call.ReadsFrom (parties : List Party) (c : Call) : Prop := c.To parties ∧ c.Reads

theorem Call.ReadsFrom.widen {parties others : List Party} {c : Call}
    (kind : c.ReadsFrom parties) (inside : parties ⊆ others) : c.ReadsFrom others :=
  ⟨kind.1.widen inside, kind.2⟩

theorem Call.get_readsFrom (url : String) (authorization : Option String) (others : List Party) :
    Call.ReadsFrom (.web :: others) (.http (Http.get url authorization)) :=
  ⟨Call.to_web _ _, rfl⟩

theorem Dialogue.Plain.toward {α : Type} {parties others : List Party} {d : Dialogue α}
    (plain : d.Plain (Call.ReadsFrom parties)) (inside : parties ⊆ others) :
    d.Plain (Call.To others) := plain.mono fun _ kind => kind.1.widen inside

theorem Dialogue.Plain.reads {α : Type} {parties : List Party} {d : Dialogue α}
    (plain : d.Plain (Call.ReadsFrom parties)) : d.Asks Call.Reads :=
  plain.asks.mono fun _ => And.right

section Answers

variable {α : Type}

def Answer.checked (answer : Answer α) : Checked α := answer.mapError .failure

theorem Answer.bounded_checked (answer : Answer α) : answer.checked.Bounded := by
  cases answer
  · exact Checked.bounded_fail _
  · exact Checked.bounded_ok _

theorem Dialogue.ofAnswer_eq (answer : Answer α) : ofAnswer answer = ofChecked answer.checked := by
  cases answer <;> rfl

theorem Dialogue.inquires_answer {c : Call} (view : c.Reply → Answer α) :
    (ask c >>= fun reply => ofAnswer (view reply)).Inquires c fun reply => (view reply).checked where
  form := congrArg (ask c >>= ·) (funext fun _ => ofAnswer_eq _)
  bounded reply := (view reply).bounded_checked

end Answers

end MultiWallet
