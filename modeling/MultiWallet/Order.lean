import MultiWallet.Amount.Wire

set_option autoImplicit false

namespace MultiWallet

inductive OrderKind where
  | sell
  | swap
deriving DecidableEq, Repr

namespace OrderKind

def name : OrderKind → String
  | sell => "SELL"
  | swap => "SWAP"

def title : OrderKind → String
  | sell => "Sell"
  | swap => "Swap"

end OrderKind

inductive Proceeds where
  | crypto (currency : Currency)
  | fiat (code : String)
deriving DecidableEq, Repr

structure Order where
  kind : OrderKind
  source : Currency
  proceeds : Proceeds
  amount : Decimal
  -- Hash of the transaction that brought the funds to the backend.
  depositHash : Option String
deriving DecidableEq, Repr

def Proceeds.toJson : Proceeds → Json
  | crypto currency => .object [("type", .string "CRYPTO"), ("currency", currency.toJson)]
  | fiat code => .object [("type", .string "FIAT"), ("currency", .string code)]

def Order.toJson (o : Order) : Json :=
  .object
    [("kind", .string o.kind.name),
     ("source", o.source.toJson),
     ("destination", o.proceeds.toJson),
     ("amount", o.amount.toJson),
     ("deposit_tx", Json.ofOption .string o.depositHash)]

def OrderKind.ofJson? : Json → Option OrderKind
  | .string "SELL" => some .sell
  | .string "SWAP" => some .swap
  | _ => none

def Proceeds.ofJson? (j : Json) : Option Proceeds := do
  let r ← Json.Record.ofJson? ["type", "currency"] j
  match ← r.required "type" Json.asText with
  | "CRYPTO" => return .crypto (← r.required "currency" Currency.ofJson?)
  | "FIAT" => return .fiat (← r.required "currency" Json.asText)
  | _ => none

def Order.ofJson? (j : Json) : Option Order := do
  let r ← Json.Record.ofJson? ["kind", "source", "destination", "amount", "deposit_tx"] j
  return {
    kind := ← r.required "kind" OrderKind.ofJson?
    source := ← r.required "source" Currency.ofJson?
    proceeds := ← r.required "destination" Proceeds.ofJson?
    amount := ← r.required "amount" Json.asDecimal
    depositHash := ← r.defaulted "deposit_tx" (Json.asOption Json.asText) none }

end MultiWallet
