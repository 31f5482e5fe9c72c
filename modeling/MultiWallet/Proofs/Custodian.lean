import MultiWallet.Proofs.Addresses

set_option autoImplicit false

namespace MultiWallet

open Dialogue

namespace Dialogue

variable {α β : Type}

def Single (d : Dialogue α) : Prop := ∃ c, d.Makes [c]

namespace Single

variable {d : Dialogue α} {f : α → Dialogue β}

theorem bind (single : d.Single) (rest : ∀ a, (f a).Makes []) : (d >>= f).Single := by
  obtain ⟨c, makes⟩ := single
  exact ⟨c, makes.bind rest⟩

theorem bounded (single : d.Single) : d.Bounded := by
  obtain ⟨c, makes⟩ := single
  intro oracle s
  exact (makes.of_run (Prod.eta _).symm).1

end Single

theorem single_answer {c : Call} (view : c.Reply → Answer α) :
    (ask c >>= fun reply => ofAnswer (view reply)).Single := ⟨c, (inquires_answer view).makes⟩

end Dialogue

namespace Custodian

theorem find_single {α : Type} (e : Endpoint) (path : String) (fields : List (String × String))
    (decode : Json → Option α) : (e.find path fields decode).Single :=
  ⟨_, find_makes e path fields decode⟩

theorem post_single {α : Type} (e : Endpoint) (path : String) (body : Json)
    (decode : Json → Option α) : (e.post path body decode).Single := by
  refine ⟨_, ((inquires_exchange _).makes).bind fun r => ?_⟩
  by_cases success : r.isSuccess = true
  next =>
    rw [if_pos success, decodeBody_eq]
    exact makes_ofChecked (Checked.bounded_decode r decode)
  next =>
    rw [if_neg success]
    exact makes_fail _

variable (custodian : Custodian) (currency : Currency)

theorem fiatCurrencies_single : custodian.fiatCurrencies.Single := by
  cases custodian with
  | external => exact single_answer (c := .fiatCurrencies) fun reply => reply
  | http base token => exact (find_single _ _ _ _).bind fun found => makes_pure _

theorem tradingBalance_single : (custodian.tradingBalance currency).Single := by
  cases custodian with
  | external => exact single_answer (c := .tradingBalance currency) fun reply => reply
  | http base token => exact (find_single _ _ _ _).bind fun found => makes_pure _

theorem interestBalance_single : (custodian.interestBalance currency).Single := by
  cases custodian with
  | external => exact single_answer (c := .interestBalance currency) fun reply => reply
  | http base token => exact find_single _ _ _ _

theorem fiatBalance_single (code : String) : (custodian.fiatBalance code).Single := by
  cases custodian with
  | external => exact single_answer (c := .fiatBalance code) fun reply => reply
  | http base token => exact (find_single _ _ _ _).bind fun found => makes_pure _

theorem withdrawalFee_single : (custodian.withdrawalFee currency).Single := by
  cases custodian with
  | external => exact single_answer (c := .withdrawalFee currency) fun reply => reply
  | http base token => exact (find_single _ _ _ _).bind fun found => makes_pure _

theorem withdraw_single (address : String) (amount : Decimal) :
    (custodian.withdraw currency address amount).Single := by
  cases custodian with
  | external => exact single_answer (c := .withdraw currency address amount) fun reply => reply
  | http base token => exact post_single _ _ _ _

theorem placeOrder_single (order : Order) : (custodian.placeOrder order).Single := by
  cases custodian with
  | external => exact single_answer (c := .placeOrder order) fun reply => reply
  | http base token => exact post_single _ _ _ _

end Custodian

end MultiWallet
