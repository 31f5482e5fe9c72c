import MultiWallet.Account
import MultiWallet.Transaction.Wire

set_option autoImplicit false

namespace MultiWallet

def Action.toJson (a : Action) : Json := .string a.name

def Action.ofJson? (j : Json) : Option Action := do ofName? (← j.asText)

def AccountFilter.ofJson? : Json → Option AccountFilter
  | .string "all" => some .all
  | .string "non_custodial" => some .nonCustodial
  | .string "custodial" => some .custodial
  | .string "interest" => some .interest
  | _ => none

def Address.toJson (a : Address) : Json :=
  .object
    [("currency", a.currency.toJson), ("address", .string a.text),
     ("memo", .ofOption .string a.memo)]

def Address.ofJson? (j : Json) : Option Address := do
  let r ← Json.Record.ofJson? ["currency", "address", "memo"] j
  return {
    currency := ← r.required "currency" Currency.ofJson?
    text := ← r.required "address" Json.asText
    memo := ← r.defaulted "memo" (Json.asOption Json.asText) none }

def Activity.toJson (a : Activity) : Json :=
  .object
    [("tx_hash", .string a.hash),
     ("kind", .string a.kind),
     ("amount", .ofOption Decimal.toJson a.amount),
     ("counterparty", .ofOption .string a.counterparty),
     ("timestamp", .ofOption Timestamp.toJson a.time)]

def Activity.ofJson? (j : Json) : Option Activity := do
  let r ← Json.Record.ofJson? ["tx_hash", "kind", "amount", "counterparty", "timestamp"] j
  return {
    hash := ← r.required "tx_hash" Json.asText
    kind := ← r.required "kind" Json.asText
    amount := ← r.defaulted "amount" (Json.asOption Json.asDecimal) none
    counterparty := ← r.defaulted "counterparty" (Json.asOption Json.asText) none
    time := ← r.defaulted "timestamp" (Json.asOption Timestamp.ofJson?) none }

def WalletEntry.toJson (e : WalletEntry) : Json :=
  .object
    [("label", .ofOption .string e.label), ("address", .string e.address),
     ("archived", .bool e.archived)]

def WalletEntry.ofJson? (j : Json) : Option WalletEntry := do
  let r ← Json.Record.ofJson? ["label", "address", "archived"] j
  return {
    label := ← r.defaulted "label" (Json.asOption Json.asText) none
    address := ← r.required "address" Json.asText
    archived := ← r.defaulted "archived" Json.asBool false }

end MultiWallet
