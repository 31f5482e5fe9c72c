import MultiWallet.Proofs.Queries

set_option autoImplicit false

namespace MultiWallet

open Dialogue

namespace Custodian

def addressCall (custodian : Custodian) (currency : Currency) : Call :=
  match custodian with
  | external => .depositAddress currency
  | http base token =>
    .http (Http.get
      (Endpoint.url { base, token } "/payments/accounts/simplebuy" [("currency", currency.ticker)])
      (Http.bearer token))

theorem find_makes {α : Type} (e : Endpoint) (path : String) (fields : List (String × String))
    (decode : Json → Option α) :
    (e.find path fields decode).Makes
      [.http (Http.get (e.url path fields) (Http.bearer e.token))] := by
  apply ((inquires_exchange _).makes).bind
  intro r
  by_cases missing : r.status = 404
  next =>
    rw [if_pos missing]
    exact makes_pure none
  next =>
    rw [if_neg missing]
    by_cases refused : r.isError = true
    next =>
      rw [if_pos refused]
      exact makes_fail _
    next =>
      rw [if_neg refused, decodeBody_eq]
      exact (makes_ofChecked (Checked.bounded_decode r decode)).map

theorem depositAddress_makes (custodian : Custodian) (currency : Currency) :
    (custodian.depositAddress currency).Makes [custodian.addressCall currency] := by
  cases custodian with
  | external => exact (inquires_answer (c := .depositAddress currency) fun reply => reply).makes
  | http base token =>
    apply (find_makes _ _ _ _).bind
    intro found
    cases found with
    | some address => exact makes_pure address
    | none => exact makes_fail _

end Custodian

def CryptoAccount.addressCall? (a : CryptoAccount) : Option Call :=
  match a.backend with
  | .onChain _ _ | .addressOnly _ => none
  | .trading custodian => some (custodian.addressCall a.currency)
  | .external name => some (.accountAddress name)

theorem CryptoAccount.receiveAddress_makes (a : CryptoAccount) :
    a.receiveAddress.Makes a.addressCall?.toList := by
  have asked : (a.backend.receiveAddress a.currency).Makes a.addressCall?.toList := by
    unfold addressCall?
    cases a.backend with
    | onChain chain address => exact makes_pure address
    | trading custodian => exact custodian.depositAddress_makes a.currency
    | addressOnly address => exact makes_pure address
    | external name => exact (inquires_answer (c := .accountAddress name) fun reply => reply).makes
  exact asked.map

namespace Account

def addressCall? : Account → Option Call
  | crypto a => a.addressCall?
  | interest _ | fiat _ => none

theorem receiveAddress_makes (account : Account) :
    account.receiveAddress.Makes account.addressCall?.toList := by
  cases account with
  | crypto a => exact a.receiveAddress_makes
  | interest a => exact makes_fail _
  | fiat a => exact makes_fail _

end Account

end MultiWallet
